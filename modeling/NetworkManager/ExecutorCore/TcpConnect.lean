import NetworkManager.Foundation.IpAddr
import NetworkManager.Foundation.Uuid

/-!
# TCP probes

A target is an address in a routing domain of a site, with an interface where
the address is link-local.  The executor checks all of this, and opens the bare
address and port.
-/

namespace NetworkManager.ExecutorCore

open NetworkManager.Foundation

def Ipv4.isPrivate (bits : BitVec 32) : Bool :=
  bits >>> 24 == 10 || bits >>> 20 == 0xac1 || bits >>> 16 == 0xc0a8

def Ipv4.isLoopback (bits : BitVec 32) : Bool := bits >>> 24 == 127

def Ipv4.isLinkLocal (bits : BitVec 32) : Bool := bits >>> 16 == 0xa9fe

def Ipv6.isLoopback (bits : BitVec 128) : Bool := bits == 1

def Ipv6.isUnicastLinkLocal (bits : BitVec 128) : Bool :=
  (bits >>> 112) &&& 0xffc0 == 0xfe80

def isUnspecified : IpAddr → Bool
  | .v4 bits => bits == 0
  | .v6 bits => bits == 0

def isMulticast : IpAddr → Bool
  | .v4 bits => bits >>> 28 == 0xe
  | .v6 bits => bits >>> 120 == 0xff

/-- An address that several interfaces may have. -/
def isIpv6LinkLocal : IpAddr → Bool
  | .v4 _ => false
  | .v6 bits => Ipv6.isUnicastLinkLocal bits

inductive DomainError where
  | invalidTargetAddress (address : IpAddr)
  | missingIpv6LinkLocalScope
  | invalidPort
  | executionScopeMismatch
deriving DecidableEq, Repr

/-- The text of an error; `display` writes an address. -/
def DomainError.toString (display : IpAddr → String) : DomainError → String
  | .invalidTargetAddress address =>
      "invalid target address: " ++ display address
  | .missingIpv6LinkLocalScope =>
      "IPv6 link-local target requires interface scope"
  | .invalidPort => "port must be greater than zero"
  | .executionScopeMismatch =>
      "execution target scope does not match the execution context"

structure ScopedIpTarget where
  organizationId : Uuid
  siteId : Uuid
  routingDomainId : Uuid
  address : IpAddr
  interfaceScope : Option String
deriving DecidableEq, Repr

def ScopedIpTarget.validate (target : ScopedIpTarget) :
    Except DomainError Unit :=
  if isUnspecified target.address || isMulticast target.address then
    .error (.invalidTargetAddress target.address)
  else if isIpv6LinkLocal target.address &&
      (target.interfaceScope.getD "").isEmpty then
    .error .missingIpv6LinkLocalScope
  else
    .ok ()

structure ExecutionContext where
  organizationId : Uuid
  siteId : Uuid
  routingDomainId : Uuid
deriving DecidableEq, Repr

structure TcpConnectRequest where
  context : ExecutionContext
  target : ScopedIpTarget
  port : UInt16
  timeoutMs : UInt64
deriving DecidableEq, Repr

/-- The time limit in milliseconds. -/
def TcpConnectRequest.timeout (request : TcpConnectRequest) : Nat :=
  max 100 (min request.timeoutMs.toNat 30000)

def TcpConnectRequest.validate (request : TcpConnectRequest) :
    Except DomainError Unit := do
  request.target.validate
  if request.port = 0 then
    .error .invalidPort
  else if request.target.organizationId ≠ request.context.organizationId ∨
      request.target.siteId ≠ request.context.siteId ∨
      request.target.routingDomainId ≠ request.context.routingDomainId then
    .error .executionScopeMismatch
  else
    .ok ()

structure NetworkPolicy where
  allowPublicTargets : Bool
deriving DecidableEq, Repr

def NetworkPolicy.allows (policy : NetworkPolicy) (address : IpAddr) : Bool :=
  if policy.allowPublicTargets then
    !isUnspecified address && !isMulticast address
  else
    match address with
    | .v4 ip => Ipv4.isPrivate ip || Ipv4.isLoopback ip || Ipv4.isLinkLocal ip
    | .v6 ip =>
        Ipv6.isLoopback ip || Ipv6.isUnicastLinkLocal ip ||
          (ip >>> 112) &&& 0xfe00 == 0xfc00

/-- A socket address, as the operating system takes it. -/
inductive SocketAddr where
  | v4 (ip : BitVec 32) (port : UInt16)
  | v6 (ip : BitVec 128) (port : UInt16) (flowInfo scopeId : UInt32)
deriving DecidableEq, Repr

/-- `SocketAddr::from` a pair: no flow and no scope. -/
def SocketAddr.ofPair : IpAddr → UInt16 → SocketAddr
  | .v4 ip, port => .v4 ip port
  | .v6 ip, port => .v6 ip port 0 0

inductive ErrorKind where
  | connectionRefused
  | permissionDenied
  | networkUnreachable
  | hostUnreachable
  | other
deriving DecidableEq, Repr

/-- What becomes of a connection within its time limit. -/
inductive ConnectOutcome where
  | connected (elapsedMs : Nat)
  | failed (kind : ErrorKind)
  | timedOut
deriving DecidableEq, Repr

inductive ExecutionStatus where
  | succeeded
  | failed
deriving DecidableEq, Repr

structure TcpConnectResult where
  status : ExecutionStatus
  latencyMs : Option Nat
  errorCode : Option String
deriving DecidableEq, Repr

inductive ExecutorError where
  | invalidRequest (message : String)
  | targetDenied
deriving DecidableEq, Repr

/-- The machine that the executor runs on. -/
structure Host where
  /-- `IpAddr::to_string`. -/
  display : IpAddr → String
  /-- `TcpStream::connect` under a time limit in milliseconds. -/
  connect : SocketAddr → Nat → ConnectOutcome

def ErrorKind.code : ErrorKind → String
  | .connectionRefused => "connection_refused"
  | .permissionDenied => "permission_denied"
  | .networkUnreachable => "network_unreachable"
  | .hostUnreachable => "host_unreachable"
  | .other => "transport_error"

def TcpConnectResult.ofOutcome : ConnectOutcome → TcpConnectResult
  | .connected elapsedMs =>
      { status := .succeeded
        latencyMs := some (min elapsedMs (2 ^ 64 - 1))
        errorCode := none }
  | .failed kind =>
      { status := .failed, latencyMs := none, errorCode := some kind.code }
  | .timedOut =>
      { status := .failed, latencyMs := none, errorCode := some "timeout" }

/-- Probe a target.  The state lists the endpoints that have been opened. -/
def tcpConnect (host : Host) (policy : NetworkPolicy)
    (request : TcpConnectRequest) :
    StateM (List SocketAddr) (Except ExecutorError TcpConnectResult) := do
  match request.validate with
  | .error failure =>
      return .error (.invalidRequest (failure.toString host.display))
  | .ok () =>
      if policy.allows request.target.address then
        let socket := SocketAddr.ofPair request.target.address request.port
        modify (· ++ [socket])
        let outcome := host.connect socket request.timeout
        return .ok (.ofOutcome outcome)
      else
        return .error .targetDenied

section Probes

variable (host : Host) (policy : NetworkPolicy)

/-- The endpoints that a probe opens. -/
def opened (request : TcpConnectRequest) : List SocketAddr :=
  ((tcpConnect host policy request).run []).2

/-- The probe is refused with an error. -/
def Refused (request : TcpConnectRequest) : Prop :=
  ∃ failure, ((tcpConnect host policy request).run []).1 = .error failure

/-- The request is valid, and the policy allows its address. -/
structure Accepted (request : TcpConnectRequest) : Prop where
  valid : request.validate = .ok ()
  allowed : policy.allows request.target.address = true

variable {host policy} {request : TcpConnectRequest}

/-- A probe that is accepted opens the bare address and port. -/
theorem tcpConnect_eq (accepted : Accepted policy request) :
    (tcpConnect host policy request).run [] =
      (.ok (.ofOutcome (host.connect
        (.ofPair request.target.address request.port) request.timeout)),
        [.ofPair request.target.address request.port]) := by
  rw [tcpConnect, accepted.valid]
  simp only [accepted.allowed, if_true]
  rfl

private theorem opened_eq (accepted : Accepted policy request) :
    opened host policy request =
      [.ofPair request.target.address request.port] := by
  rw [opened, tcpConnect_eq accepted]

private theorem not_refused (accepted : Accepted policy request) :
    ¬Refused host policy request := by
  rintro ⟨failure, refused⟩
  rw [tcpConnect_eq accepted] at refused
  cases refused

/-- Exactly what is not accepted is refused. -/
theorem refused_iff :
    Refused host policy request ↔ ¬Accepted policy request := by
  constructor
  · intro refused accepted
    exact not_refused accepted refused
  · intro notAccepted
    rw [Refused, tcpConnect]
    cases validated : request.validate with
    | error failure => exact ⟨_, rfl⟩
    | ok done =>
        by_cases allowed : policy.allows request.target.address = true
        · exact absurd ⟨validated, allowed⟩ notAccepted
        · simp only [allowed]
          exact ⟨_, rfl⟩

end Probes

/-! ## Layer 3 identities -/

/-- An interface of a host, in a routing domain. -/
structure Origin where
  interface : String
  routingDomainId : Uuid
deriving DecidableEq, Repr

/-- The target names what lies at this origin. -/
def ScopedIpTarget.Names (target : ScopedIpTarget) (origin : Origin) : Prop :=
  target.routingDomainId = origin.routingDomainId ∧
    ∀ interface, target.interfaceScope = some interface →
      interface = origin.interface

/-- The targets differ in their routing domains or, with a link-local address,
in their interfaces. -/
def ScopedIpTarget.DiffersFrom (first second : ScopedIpTarget) : Prop :=
  first.routingDomainId ≠ second.routingDomainId ∨
    isIpv6LinkLocal first.address = true ∧
      first.interfaceScope ≠ second.interfaceScope

/-- A link-local target that is valid names an interface. -/
theorem ScopedIpTarget.interfaceScope_isSome {target : ScopedIpTarget}
    (valid : target.validate = .ok ())
    (linkLocal : isIpv6LinkLocal target.address = true) :
    ∃ interface, target.interfaceScope = some interface := by
  cases scope : target.interfaceScope with
  | some interface => exact ⟨interface, rfl⟩
  | none =>
      rw [validate, linkLocal, scope] at valid
      split at valid
      · cases valid
      · cases valid

/-- No origin is named by two targets that differ. -/
theorem ScopedIpTarget.DiffersFrom.not_names {first second : ScopedIpTarget}
    (differs : first.DiffersFrom second) (validFirst : first.validate = .ok ())
    (validSecond : second.validate = .ok ())
    (sameAddress : first.address = second.address) (origin : Origin) :
    ¬(first.Names origin ∧ second.Names origin) := by
  rintro ⟨⟨firstDomain, firstInterface⟩, secondDomain, secondInterface⟩
  rcases differs with domains | ⟨linkLocal, interfaces⟩
  · exact domains (firstDomain.trans secondDomain.symm)
  · obtain ⟨left, isLeft⟩ := interfaceScope_isSome validFirst linkLocal
    rw [sameAddress] at linkLocal
    obtain ⟨right, isRight⟩ := interfaceScope_isSome validSecond linkLocal
    apply interfaces
    rw [isLeft, isRight, firstInterface left isLeft, secondInterface right isRight]

private theorem TcpConnectRequest.target_valid {request : TcpConnectRequest}
    (valid : request.validate = .ok ()) : request.target.validate = .ok () := by
  rw [validate] at valid
  cases validated : request.target.validate with
  | error failure =>
      rw [validated] at valid
      cases valid
  | ok done => rfl

section Dialling

variable (host : Host) (policy : NetworkPolicy)

/-- The endpoints of two probes differ, or one of the probes is refused. -/
def DialledDistinctly (first second : TcpConnectRequest) : Prop :=
  opened host policy first ≠ opened host policy second ∨
    Refused host policy first ∨ Refused host policy second

/-- Whatever a probe opens lies where its target says; `origin` is the origin
from which the network answers at an endpoint. -/
def AnswersFromTarget (origin : SocketAddr → Origin)
    (request : TcpConnectRequest) : Prop :=
  ∀ socket ∈ opened host policy request, request.target.Names (origin socket)

variable {host policy} {first second : TcpConnectRequest}

private theorem opened_eq_opened (acceptedFirst : Accepted policy first)
    (acceptedSecond : Accepted policy second)
    (sameAddress : first.target.address = second.target.address)
    (samePort : first.port = second.port) :
    opened host policy first = opened host policy second := by
  rw [opened_eq acceptedFirst, opened_eq acceptedSecond, sameAddress, samePort]

/-- A probe that is accepted is answered from its target if and only if the
network leads the bare address and port there. -/
theorem answersFromTarget_iff (accepted : Accepted policy first)
    (origin : SocketAddr → Origin) :
    AnswersFromTarget host policy origin first ↔
      first.target.Names
        (origin (.ofPair first.target.address first.port)) := by
  rw [AnswersFromTarget, opened_eq accepted, List.forall_mem_singleton]

/-- Two probes of one address and port whose targets differ are never dialled
distinctly, and on no network are both answered from their targets. -/
theorem not_dialledDistinctly (acceptedFirst : Accepted policy first)
    (acceptedSecond : Accepted policy second)
    (sameAddress : first.target.address = second.target.address)
    (samePort : first.port = second.port)
    (differs : first.target.DiffersFrom second.target)
    (origin : SocketAddr → Origin) :
    ¬DialledDistinctly host policy first second ∧
      ¬(AnswersFromTarget host policy origin first ∧
        AnswersFromTarget host policy origin second) := by
  constructor
  · rintro (endpoints | refused | refused)
    · exact endpoints (opened_eq_opened acceptedFirst acceptedSecond sameAddress
        samePort)
    · exact not_refused acceptedFirst refused
    · exact not_refused acceptedSecond refused
  · rw [answersFromTarget_iff acceptedFirst, answersFromTarget_iff acceptedSecond,
      sameAddress, samePort]
    exact differs.not_names (TcpConnectRequest.target_valid acceptedFirst.valid)
      (TcpConnectRequest.target_valid acceptedSecond.valid) sameAddress _

end Dialling

namespace Sample

/-- Port 22 of `10.0.0.1` in a routing domain of one site. -/
def request (routingDomainId : Uuid) : TcpConnectRequest where
  context :=
    { organizationId := ⟨1⟩, siteId := ⟨2⟩, routingDomainId := routingDomainId }
  target :=
    { organizationId := ⟨1⟩
      siteId := ⟨2⟩
      routingDomainId := routingDomainId
      address := .v4 0x0a000001
      interfaceScope := none }
  port := 22
  timeoutMs := 1000

/-- A network on which every connection is refused. -/
def host : Host where
  display _ := "10.0.0.1"
  connect _ _ := .failed .connectionRefused

def policy : NetworkPolicy := ⟨false⟩

theorem accepted (routingDomainId : Uuid) :
    Accepted policy (request routingDomainId) where
  valid := by
    have target : (request routingDomainId).target.validate = .ok () := rfl
    rw [TcpConnectRequest.validate, target]
    simp [request, bind, Except.bind]
  allowed := rfl

end Sample

/-- The probes of `10.0.0.1` in two routing domains open one endpoint. -/
theorem not_dialledDistinctly_private :
    ¬DialledDistinctly Sample.host Sample.policy (Sample.request ⟨3⟩)
        (Sample.request ⟨4⟩) ∧
      ¬(AnswersFromTarget Sample.host Sample.policy (fun _ => ⟨"eth0", ⟨3⟩⟩)
          (Sample.request ⟨3⟩) ∧
        AnswersFromTarget Sample.host Sample.policy (fun _ => ⟨"eth0", ⟨3⟩⟩)
          (Sample.request ⟨4⟩)) :=
  not_dialledDistinctly (Sample.accepted ⟨3⟩) (Sample.accepted ⟨4⟩) rfl rfl
    (Or.inl (by decide)) _

/-- Probes in distinct routing domains of one site are not dialled
distinctly. -/
theorem not_distinct_endpoints :
    ¬∀ (host : Host) (policy : NetworkPolicy) (first second : TcpConnectRequest),
      Accepted policy first → Accepted policy second →
      first.target.organizationId = second.target.organizationId →
      first.target.siteId = second.target.siteId →
      first.target.address = second.target.address →
      first.port = second.port → first.target.DiffersFrom second.target →
      DialledDistinctly host policy first second := by
  intro distinct
  have acceptedFirst := Sample.accepted ⟨3⟩
  have acceptedSecond := Sample.accepted ⟨4⟩
  rcases distinct Sample.host _ _ _ acceptedFirst acceptedSecond rfl rfl rfl rfl
    (Or.inl (by decide)) with endpoints | refused | refused
  · exact endpoints (opened_eq_opened acceptedFirst acceptedSecond rfl rfl)
  · exact not_refused acceptedFirst refused
  · exact not_refused acceptedSecond refused

end NetworkManager.ExecutorCore
