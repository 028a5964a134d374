import Mathlib.Data.Nat.Bitwise
import NetworkManager.Backend.Cookies
import NetworkManager.ExecutorCore.TcpConnect
import NetworkManager.Foundation.IpAddrText
import NetworkManager.Foundation.JsonText

/-!
# The site runtime

The runtime is started from its environment, which gives it a socket to listen
on, a token and a network policy.  It opens a connection for those requests that
present the token, and tells nothing about itself to the others.
-/

namespace NetworkManager.SiteRuntime

open NetworkManager.Backend (HeaderMap isVisibleAscii toStr)
open NetworkManager.ExecutorCore
open NetworkManager.Foundation

/-- `read_port`. -/
def takePort (input : List Char) : Option (UInt16 × List Char) :=
  (readChar ':' input).bind fun rest =>
    (readNumber 10 rest.length true 65535 rest).map fun (port, rest) =>
      (UInt16.ofNat port, rest)

/-- `read_socket_addr_v4`. -/
def takeSocketV4 (input : List Char) : Option (SocketAddr × List Char) :=
  (takeIpv4 input).bind fun (ip, rest) =>
    (takePort rest).map fun (port, rest) =>
      (.v4 (BitVec.ofNat 32 ip) port, rest)

/-- `read_scope_id`. -/
def takeScopeId (input : List Char) : Option (UInt32 × List Char) :=
  (readChar '%' input).bind fun rest =>
    (readNumber 10 rest.length true (2 ^ 32 - 1) rest).map fun (scope, rest) =>
      (UInt32.ofNat scope, rest)

/-- `read_socket_addr_v6`. -/
def takeSocketV6 (input : List Char) : Option (SocketAddr × List Char) :=
  (readChar '[' input).bind fun rest =>
    (takeIpv6 rest).bind fun (ip, rest) =>
      let (scopeId, rest) := (takeScopeId rest).getD (0, rest)
      (readChar ']' rest).bind fun rest =>
        (takePort rest).map fun (port, rest) =>
          (.v6 (BitVec.ofNat 128 ip) port 0 scopeId, rest)

/-- `str::parse::<SocketAddr>`. -/
def parseSocketAddr (text : String) : Option SocketAddr :=
  match (takeSocketV4 text.toList).or (takeSocketV6 text.toList) with
  | some (socket, []) => some socket
  | _ => none

/-- `SocketAddr::ip`. -/
def ip : SocketAddr → IpAddr
  | .v4 bits _ => .v4 bits
  | .v6 bits _ _ _ => .v6 bits

def isLoopback : IpAddr → Bool
  | .v4 bits => Ipv4.isLoopback bits
  | .v6 bits => Ipv6.isLoopback bits

/-- `env::var`: a variable that is unset or not Unicode has no value. -/
abbrev Environment := String → Option String

def envFlag (environment : Environment) (name : String) : Bool :=
  match environment name with
  | none => false
  | some value => ["1", "true", "yes"].contains (toAsciiLowercase value)

structure AppState where
  token : String
  policy : NetworkPolicy
deriving DecidableEq, Repr

/-- A runtime that listens. -/
structure Server where
  bind : SocketAddr
  state : AppState
deriving DecidableEq, Repr

inductive StartError where
  | addressSyntax
  | notSet (name : String)
  | refused (message : String)
deriving DecidableEq, Repr

/-- `main`, up to the listener. -/
def start (environment : Environment) : Except StartError Server :=
  match parseSocketAddr
      ((environment "SNM_RUNTIME_BIND").getD "127.0.0.1:9765") with
  | none => .error .addressSyntax
  | some bind =>
      if !isLoopback (ip bind) &&
          !envFlag environment "SNM_RUNTIME_ALLOW_NON_LOOPBACK" then
        .error (.refused
          "runtime refuses non-loopback bind unless SNM_RUNTIME_ALLOW_NON_LOOPBACK=true")
      else
        match environment "SNM_RUNTIME_TOKEN" with
        | none => .error (.notSet "SNM_RUNTIME_TOKEN")
        | some token =>
            if token.utf8ByteSize < 32 ∨
                token = "change-me-with-a-long-random-secret" then
              .error (.refused
                "SNM_RUNTIME_TOKEN must be a non-default secret with at least 32 characters")
            else
              .ok ⟨bind, token,
                ⟨envFlag environment "SNM_RUNTIME_ALLOW_PUBLIC_TARGETS"⟩⟩

inductive Method where
  | get
  | head
  | post
  | other
deriving DecidableEq, Repr

structure Request where
  method : Method
  path : String
  headers : HeaderMap
  body : Bytes
deriving DecidableEq, Repr

/-- What the body of an answer tells. -/
inductive Payload where
  | empty
  | health (status component version : String)
  | capabilities (names : List String)
  | probe (result : TcpConnectResult)
  | failure (code message : String)
  | rejection (message : String)
deriving DecidableEq, Repr

structure Answer where
  status : Nat
  payload : Payload
deriving DecidableEq, Repr

/-- What the extractor of a JSON body answers with. -/
structure Rejection where
  status : Nat
  message : String
deriving DecidableEq, Repr

/-- `Json<TcpConnectRequest>`, from the fields and the body of a request. -/
abbrev Extractor := HeaderMap → Bytes → Except Rejection TcpConnectRequest

/-- `str::strip_prefix`. -/
def stripPrefix (start text : String) : Option String :=
  if start.toList.isPrefixOf text.toList then
    some (String.ofList (text.toList.drop start.toList.length))
  else
    none

def authorize (headers : HeaderMap) (expected : String) : Except Nat Unit :=
  match headers.get "authorization" with
  | none => .error 401
  | some value =>
      match toStr value with
      | none => .error 401
      | some value =>
          match stripPrefix "Bearer " value with
          | none => .error 401
          | some provided =>
              if provided.utf8ByteSize = expected.utf8ByteSize ∧
                  utf8Bytes provided = utf8Bytes expected then
                .ok ()
              else
                .error 401

inductive Capability where
  | runtimeCapabilitiesRead
  | networkTcpConnect
deriving DecidableEq, Repr

def Capability.asStr : Capability → String
  | .runtimeCapabilitiesRead => "runtime.capabilities.read"
  | .networkTcpConnect => "network.tcp.connect"

/-- `DefaultNetworkExecutor::capabilities`. -/
def executorCapabilities : List Capability :=
  [.runtimeCapabilitiesRead, .networkTcpConnect]

/-- The version that the crate is built with. -/
def cargoPkgVersion : String := "0.1.0"

def health : Answer := ⟨200, .health "ok" "site-runtime" cargoPkgVersion⟩

def ready : Answer := ⟨200, .health "ready" "site-runtime" cargoPkgVersion⟩

def capabilities (state : AppState) (headers : HeaderMap) : Answer :=
  match authorize headers state.token with
  | .error status => ⟨status, .empty⟩
  | .ok () => ⟨200, .capabilities (executorCapabilities.map Capability.asStr)⟩

def executorErrorText : ExecutorError → String
  | .invalidRequest message => "execution request is invalid: " ++ message
  | .targetDenied => "target is outside runtime network policy"

def errorAnswer (error : ExecutorError) : Answer :=
  match error with
  | .invalidRequest _ =>
      ⟨422, .failure "invalid_execution_request" (executorErrorText error)⟩
  | .targetDenied => ⟨403, .failure "target_denied" (executorErrorText error)⟩

/-- The handler of a probe, whose body is extracted before it runs. -/
def tcpConnect (extract : Extractor) (host : Host) (state : AppState)
    (headers : HeaderMap) (body : Bytes) : StateM (List SocketAddr) Answer :=
  match extract headers body with
  | .error rejection =>
      return ⟨rejection.status, .rejection rejection.message⟩
  | .ok request =>
      match authorize headers state.token with
      | .error status => return ⟨status, .empty⟩
      | .ok () => do
          match ← ExecutorCore.tcpConnect host state.policy request with
          | .ok result => return ⟨200, .probe result⟩
          | .error error => return errorAnswer error

/-- A route for `GET`, which also answers `HEAD`. -/
def get (method : Method) (answer : Answer) : Answer :=
  match method with
  | .get => answer
  | .head => { answer with payload := .empty }
  | _ => ⟨405, .empty⟩

/-- The router. -/
def serve (extract : Extractor) (host : Host) (state : AppState)
    (request : Request) : StateM (List SocketAddr) Answer :=
  if request.path = "/health" then
    return get request.method health
  else if request.path = "/ready" then
    return get request.method ready
  else if request.path = "/v1/capabilities" then
    return get request.method (capabilities state request.headers)
  else if request.path = "/v1/execute/tcp-connect" then
    if request.method = .post then
      tcpConnect extract host state request.headers request.body
    else
      return ⟨405, .empty⟩
  else
    return ⟨404, .empty⟩

/-- A request, and how the network is when it is served. -/
structure Visit where
  host : Host
  request : Request

def serveAll (extract : Extractor) (state : AppState) (visits : List Visit) :
    StateM (List SocketAddr) (List Answer) :=
  visits.mapM fun visit => serve extract visit.host state visit.request

/-- The first `Authorization` field is the token, which is visible ASCII. -/
structure Presents (headers : HeaderMap) (token : String) : Prop where
  field : headers.get "authorization" = some (utf8Bytes ("Bearer " ++ token))
  visible : (utf8Bytes token).all isVisibleAscii = true

private theorem toStr_eq_some_iff {value : Bytes} {text : String} :
    toStr value = some text ↔
      value.all isVisibleAscii = true ∧ utf8Bytes text = value := by
  rw [toStr]
  split
  case isTrue visible => simp [visible, fromUtf8_eq_some_iff]
  case isFalse hidden => simp [hidden]

private theorem stripPrefix_eq_some_iff {start text rest : String} :
    stripPrefix start text = some rest ↔ text = start ++ rest := by
  rw [stripPrefix]
  constructor
  · intro stripped
    split at stripped
    case isTrue begins =>
      obtain ⟨other, isText⟩ := List.isPrefixOf_iff_prefix.mp begins
      rw [← isText, List.drop_left] at stripped
      cases stripped
      apply String.toList_injective
      rw [String.toList_append, String.toList_ofList, isText]
    case isFalse => cases stripped
  · rintro rfl
    rw [String.toList_append, if_pos (List.isPrefixOf_iff_prefix.mpr
      (List.prefix_append _ _)), List.drop_left, String.ofList_toList]

private theorem authorize_ok_iff {headers : HeaderMap} {token : String} :
    authorize headers token = .ok () ↔ Presents headers token := by
  constructor
  · intro authorized
    rw [authorize] at authorized
    split at authorized
    case h_1 => cases authorized
    case h_2 value found =>
      split at authorized
      case h_1 => cases authorized
      case h_2 text isText =>
        obtain ⟨visible, written⟩ := toStr_eq_some_iff.mp isText
        split at authorized
        case h_1 => cases authorized
        case h_2 provided isProvided =>
          rw [stripPrefix_eq_some_iff] at isProvided
          subst isProvided
          split at authorized
          case isTrue same =>
            cases utf8Bytes_injective same.2
            rw [← written, utf8Bytes_append, List.all_append,
              Bool.and_eq_true] at visible
            exact ⟨by rw [found, ← written], visible.2⟩
          case isFalse => cases authorized
  · rintro ⟨found, visible⟩
    have isText : toStr (utf8Bytes ("Bearer " ++ token)) =
        some ("Bearer " ++ token) := by
      refine toStr_eq_some_iff.mpr ⟨?_, rfl⟩
      rw [utf8Bytes_append, List.all_append, visible]
      decide
    have isProvided : stripPrefix "Bearer " ("Bearer " ++ token) = some token :=
      stripPrefix_eq_some_iff.mpr rfl
    rw [authorize, found]
    simp only [isText, isProvided, and_self, if_true]

/-- Whoever does not present the token is answered with one status. -/
theorem authorize_of_not_presents {headers : HeaderMap} {token : String}
    (unknown : ¬Presents headers token) :
    authorize headers token = .error 401 := by
  rw [← authorize_ok_iff] at unknown
  rw [authorize] at unknown ⊢
  split
  case h_1 => rfl
  case h_2 value found =>
    simp only [found] at unknown
    split
    case h_1 => rfl
    case h_2 text isText =>
      simp only [isText] at unknown
      split
      case h_1 => rfl
      case h_2 provided isProvided =>
        simp only [isProvided] at unknown
        split
        case isTrue same => exact absurd (if_pos same) unknown
        case isFalse => rfl

/-! ## The networks of a policy -/

/-- Private, loopback, link-local and unique local addresses. -/
def internalNetworks : List Cidr :=
  [.v4 0x0a000000 8, .v4 0xac100000 12, .v4 0xc0a80000 16, .v4 0x7f000000 8,
    .v4 0xa9fe0000 16, .v6 1 128, .v6 (0xfe80 <<< 112) 10,
    .v6 (0xfc00 <<< 112) 7]

/-- Addresses that name no one machine. -/
def unroutableNetworks : List Cidr :=
  [.v4 0 32, .v4 0xe0000000 4, .v6 0 128, .v6 (0xff00 <<< 112) 8]

/-- Some of the networks has the address. -/
def InSome (networks : List Cidr) (address : IpAddr) : Prop :=
  ∃ network ∈ networks, network.contains address = true

private theorem and_shiftLeft (value mask low : Nat) :
    value &&& (mask <<< low) = ((value >>> low) &&& mask) <<< low := by
  apply Nat.eq_of_testBit_eq
  intro place
  simp only [Nat.testBit_and, Nat.testBit_shiftLeft, Nat.testBit_shiftRight]
  by_cases above : low ≤ place
  · simp [above]
  · simp [above]

/-- A mask on the upper bits of the first 16 of an address compares a prefix. -/
theorem mask_eq_iff (bits : BitVec 128) {low : Nat} (small : low ≤ 16)
    {first : Nat} (bound : first < 2 ^ (16 - low)) :
    (bits >>> 112) &&& BitVec.ofNat 128 ((2 ^ (16 - low) - 1) <<< low) =
        BitVec.ofNat 128 (first <<< low) ↔
      bits.toNat >>> (112 + low) = first := by
  have shifted : ∀ value < 2 ^ (16 - low), value <<< low < 2 ^ 128 := by
    intro value below
    have room : 2 ^ (16 - low) * 2 ^ low ≤ 2 ^ 128 := by
      rw [← Nat.pow_add, Nat.sub_add_cancel small]
      exact Nat.pow_le_pow_right (by decide) (by decide)
    rw [Nat.shiftLeft_eq]
    exact lt_of_lt_of_le ((Nat.mul_lt_mul_right (Nat.two_pow_pos low)).mpr
      below) room
  have prefixBelow : bits.toNat >>> (112 + low) < 2 ^ (16 - low) := by
    rw [Nat.shiftRight_eq_div_pow]
    apply Nat.div_lt_of_lt_mul
    rw [← Nat.pow_add]
    exact lt_of_lt_of_eq bits.isLt (congrArg _ (by omega))
  have isMask : 2 ^ (16 - low) - 1 < 2 ^ (16 - low) :=
    Nat.sub_lt (Nat.two_pow_pos _) (by decide)
  rw [← BitVec.toNat_inj, BitVec.toNat_and, BitVec.toNat_ushiftRight,
    BitVec.toNat_ofNat, BitVec.toNat_ofNat,
    Nat.mod_eq_of_lt (shifted _ isMask), Nat.mod_eq_of_lt (shifted _ bound),
    and_shiftLeft, ← Nat.shiftRight_add, Nat.and_two_pow_sub_one_eq_mod,
    Nat.mod_eq_of_lt prefixBelow, Nat.shiftLeft_eq, Nat.shiftLeft_eq]
  exact Nat.mul_left_inj (Nat.two_pow_pos low).ne'

private theorem contains_v4_iff {network bits : BitVec 32} {length : Fin 33} :
    (Cidr.v4 network length).contains (.v4 bits) = true ↔
      bits >>> (32 - length.val) = network >>> (32 - length.val) := by
  rw [Cidr.contains, beq_iff_eq, eq_comm]

private theorem contains_v6_iff {network bits : BitVec 128} {length : Fin 129} :
    (Cidr.v6 network length).contains (.v6 bits) = true ↔
      bits.toNat >>> (128 - length.val) =
        (network >>> (128 - length.val)).toNat := by
  rw [Cidr.contains, beq_iff_eq, eq_comm, ← BitVec.toNat_inj,
    BitVec.toNat_ushiftRight]

@[simp]
theorem contains_v4_v6 (network : BitVec 32) (length : Fin 33)
    (bits : BitVec 128) : (Cidr.v4 network length).contains (.v6 bits) = false :=
  rfl

@[simp]
theorem contains_v6_v4 (network : BitVec 128) (length : Fin 129)
    (bits : BitVec 32) : (Cidr.v6 network length).contains (.v4 bits) = false :=
  rfl

/-- A policy that allows no public targets allows the internal networks. -/
theorem allows_internal_iff (address : IpAddr) :
    NetworkPolicy.allows ⟨false⟩ address = true ↔
      InSome internalNetworks address := by
  cases address with
  | v4 bits =>
      simp [NetworkPolicy.allows, InSome, internalNetworks, Ipv4.isPrivate,
        Ipv4.isLoopback, Ipv4.isLinkLocal, contains_v4_iff, or_assoc]
  | v6 bits =>
      have allowed : NetworkPolicy.allows ⟨false⟩ (.v6 bits) =
          (bits == 1 || (bits >>> 112) &&& 0xffc0 == 0xfe80 ||
            (bits >>> 112) &&& 0xfe00 == 0xfc00) := rfl
      have linkLocal : (bits >>> 112) &&& 0xffc0 = 0xfe80 ↔
          bits.toNat >>> 118 = 0x3fa :=
        @mask_eq_iff bits 6 (by decide) 0x3fa (by decide)
      have unique : (bits >>> 112) &&& 0xfe00 = 0xfc00 ↔
          bits.toNat >>> 121 = 0x7e :=
        @mask_eq_iff bits 9 (by decide) 0x7e (by decide)
      have loopback : bits = 1 ↔ bits.toNat = 1 := BitVec.toNat_inj.symm
      rw [allowed, Bool.or_eq_true, Bool.or_eq_true, beq_iff_eq, beq_iff_eq,
        beq_iff_eq, loopback, linkLocal, unique]
      simp [InSome, internalNetworks, contains_v6_iff, or_assoc]

/-- A policy that allows public targets allows all but unroutable ones. -/
theorem allows_public_iff (address : IpAddr) :
    NetworkPolicy.allows ⟨true⟩ address = true ↔
      ¬InSome unroutableNetworks address := by
  cases address with
  | v4 bits =>
      simp [NetworkPolicy.allows, InSome, unroutableNetworks, isUnspecified,
        isMulticast, contains_v4_iff]
  | v6 bits =>
      have allowed : NetworkPolicy.allows ⟨true⟩ (.v6 bits) =
          (!(bits == 0) && !(bits >>> 120 == 0xff)) := rfl
      have unspecified : bits = 0 ↔ bits.toNat = 0 := BitVec.toNat_inj.symm
      have multicast : bits >>> 120 = 0xff ↔ bits.toNat >>> 120 = 0xff := by
        rw [← BitVec.toNat_inj, BitVec.toNat_ushiftRight]
        rfl
      rw [allowed, Bool.and_eq_true, Bool.not_eq_true', Bool.not_eq_true',
        beq_eq_false_iff_ne, beq_eq_false_iff_ne, ne_eq, ne_eq, unspecified,
        multicast]
      simp [InSome, unroutableNetworks, contains_v6_iff]

/-- The bare address and port of a probe. -/
def endpoint (probe : TcpConnectRequest) : SocketAddr :=
  .ofPair probe.target.address probe.port

/-- The request presents the token and asks for a probe that is accepted. -/
structure Asks (extract : Extractor) (state : AppState) (request : Request)
    (probe : TcpConnectRequest) : Prop where
  method : request.method = .post
  path : request.path = "/v1/execute/tcp-connect"
  extracted : extract request.headers request.body = .ok probe
  presents : Presents request.headers state.token
  accepted : Accepted state.policy probe

/-- A request is answered, and these connections are opened for it. -/
structure Served (extract : Extractor) (state : AppState) (visit : Visit)
    (answer : Answer) (dials : List SocketAddr) : Prop where
  asked : ∀ probe, Asks extract state visit.request probe →
    dials = [endpoint probe] ∧
      answer = ⟨200, .probe (.ofOutcome
        (visit.host.connect (endpoint probe) probe.timeout))⟩
  otherwise : (∀ probe, ¬Asks extract state visit.request probe) →
    dials = [] ∧ ∀ result, answer.payload ≠ .probe result

section Serving

variable {extract : Extractor} {host : Host} {state : AppState}
  {request : Request} {log : List SocketAddr}

/-- A probe adds its connection behind those that have been opened. -/
theorem tcpConnect_run_accepted {policy : NetworkPolicy}
    {probe : TcpConnectRequest} (accepted : Accepted policy probe) :
    (ExecutorCore.tcpConnect host policy probe).run log =
      (.ok (.ofOutcome (host.connect (endpoint probe) probe.timeout)),
        log ++ [endpoint probe]) := by
  rw [ExecutorCore.tcpConnect, accepted.valid]
  simp only [accepted.allowed, if_true]
  rfl

private theorem tcpConnect_run_refused {policy : NetworkPolicy}
    {probe : TcpConnectRequest} (refused : ¬Accepted policy probe) :
    ∃ error, (ExecutorCore.tcpConnect host policy probe).run log =
      (.error error, log) := by
  rw [ExecutorCore.tcpConnect]
  cases validated : probe.validate with
  | error failure => exact ⟨_, rfl⟩
  | ok done =>
      by_cases allowed : policy.allows probe.target.address = true
      · exact absurd ⟨validated, allowed⟩ refused
      · simp only [allowed]
        exact ⟨_, rfl⟩

/-- What a request is answered that does not present the token. -/
def anonymousAnswer (extract : Extractor) (request : Request) : Answer :=
  if request.path = "/health" then
    get request.method health
  else if request.path = "/ready" then
    get request.method ready
  else if request.path = "/v1/capabilities" then
    get request.method ⟨401, .empty⟩
  else if request.path = "/v1/execute/tcp-connect" then
    if request.method = .post then
      match extract request.headers request.body with
      | .error rejection => ⟨rejection.status, .rejection rejection.message⟩
      | .ok _ => ⟨401, .empty⟩
    else
      ⟨405, .empty⟩
  else
    ⟨404, .empty⟩

private theorem serve_of_not_presents
    (unknown : ¬Presents request.headers state.token) :
    (serve extract host state request).run log =
      (anonymousAnswer extract request, log) := by
  have refused := authorize_of_not_presents unknown
  rw [serve, anonymousAnswer]
  split_ifs with isHealth isReady isCapabilities isProbe isPost
  · rfl
  · rfl
  · rw [capabilities, refused]
    rfl
  · rw [tcpConnect]
    cases extract request.headers request.body with
    | error rejection => rfl
    | ok probe =>
        simp only [refused]
        rfl
  · rfl
  · rfl

private theorem serve_of_asks {probe : TcpConnectRequest}
    (asks : Asks extract state request probe) :
    (serve extract host state request).run log =
      (⟨200, .probe (.ofOutcome
          (host.connect (endpoint probe) probe.timeout))⟩,
        log ++ [endpoint probe]) := by
  have isHealth : request.path ≠ "/health" := by rw [asks.path]; decide
  have isReady : request.path ≠ "/ready" := by rw [asks.path]; decide
  have isCapabilities : request.path ≠ "/v1/capabilities" := by
    rw [asks.path]
    decide
  rw [serve, if_neg isHealth, if_neg isReady, if_neg isCapabilities,
    if_pos asks.path, if_pos asks.method, tcpConnect, asks.extracted]
  simp only [authorize_ok_iff.mpr asks.presents]
  rw [StateT.run_bind, tcpConnect_run_accepted asks.accepted]
  rfl

private theorem get_payload_ne {answer : Answer} {result : TcpConnectResult}
    (different : answer.payload ≠ .probe result) :
    (get request.method answer).payload ≠ .probe result := by
  cases request.method with
  | get => exact different
  | head => rintro ⟨⟩
  | post => rintro ⟨⟩
  | other => rintro ⟨⟩

private theorem capabilities_payload_ne (state : AppState) (headers : HeaderMap)
    (result : TcpConnectResult) :
    (capabilities state headers).payload ≠ .probe result := by
  rw [capabilities]
  cases authorize headers state.token with
  | error status => rintro ⟨⟩
  | ok authorized => rintro ⟨⟩

/-- Any other request opens nothing and is told of no probe. -/
theorem serve_of_not_asks
    (notAsks : ∀ probe, ¬Asks extract state request probe) :
    ∃ answer, (serve extract host state request).run log = (answer, log) ∧
      ∀ result, answer.payload ≠ .probe result := by
  rw [serve]
  split_ifs with isHealth isReady isCapabilities isProbe isPost
  · exact ⟨_, rfl, fun _ => get_payload_ne (by rintro ⟨⟩)⟩
  · exact ⟨_, rfl, fun _ => get_payload_ne (by rintro ⟨⟩)⟩
  · exact ⟨_, rfl, fun result =>
      get_payload_ne (capabilities_payload_ne state request.headers result)⟩
  · rw [tcpConnect]
    cases extracted : extract request.headers request.body with
    | error rejection => exact ⟨_, rfl, by rintro _ ⟨⟩⟩
    | ok probe =>
        by_cases presents : Presents request.headers state.token
        case neg =>
          simp only [authorize_of_not_presents presents]
          exact ⟨_, rfl, by rintro _ ⟨⟩⟩
        case pos =>
          have refused : ¬Accepted state.policy probe := fun accepted =>
            notAsks probe ⟨isPost, isProbe, extracted, presents, accepted⟩
          obtain ⟨error, isError⟩ :=
            @tcpConnect_run_refused host log state.policy probe refused
          simp only [authorize_ok_iff.mpr presents]
          rw [StateT.run_bind, isError]
          refine ⟨errorAnswer error, rfl, ?_⟩
          cases error with
          | invalidRequest message => rintro _ ⟨⟩
          | targetDenied => rintro _ ⟨⟩
  · exact ⟨_, rfl, by rintro _ ⟨⟩⟩
  · exact ⟨_, rfl, by rintro _ ⟨⟩⟩

private theorem served (visit : Visit) (log : List SocketAddr) :
    ∃ answer dials, (serve extract visit.host state visit.request).run log =
        (answer, log ++ dials) ∧
      Served extract state visit answer dials := by
  by_cases asks : ∃ probe, Asks extract state visit.request probe
  case pos =>
    obtain ⟨probe, asks⟩ := asks
    refine ⟨_, [endpoint probe], serve_of_asks asks, ?_, ?_⟩
    · intro other alsoAsks
      cases asks.extracted.symm.trans alsoAsks.extracted
      exact ⟨rfl, rfl⟩
    · intro notAsks
      exact absurd asks (notAsks probe)
  case neg =>
    rw [not_exists] at asks
    obtain ⟨answer, isServed, noProbe⟩ :=
      @serve_of_not_asks extract visit.host state visit.request log asks
    refine ⟨answer, [], by rw [List.append_nil]; exact isServed, ?_, ?_⟩
    · intro probe alsoAsks
      exact absurd alsoAsks (asks probe)
    · intro _
      exact ⟨rfl, noProbe⟩

end Serving

private theorem ip_endpoint (probe : TcpConnectRequest) :
    ip (endpoint probe) = probe.target.address := by
  rw [endpoint]
  cases probe.target.address with
  | v4 bits => rfl
  | v6 bits => rfl

/-- Only what the policy allows is dialled. -/
theorem Served.allowed {extract : Extractor} {state : AppState} {visit : Visit}
    {answer : Answer} {dials : List SocketAddr}
    (isServed : Served extract state visit answer dials) {socket : SocketAddr}
    (dialled : socket ∈ dials) : state.policy.allows (ip socket) = true := by
  by_cases asks : ∃ probe, Asks extract state visit.request probe
  case pos =>
    obtain ⟨probe, asks⟩ := asks
    rw [(isServed.asked probe asks).1, List.mem_singleton] at dialled
    rw [dialled, ip_endpoint]
    exact asks.accepted.allowed
  case neg =>
    rw [not_exists] at asks
    rw [(isServed.otherwise asks).1] at dialled
    cases dialled

section Runs

variable {extract : Extractor}

private theorem serveAll_cons
    (state : AppState) (visit : Visit) (visits : List Visit)
    (log : List SocketAddr) :
    (serveAll extract state (visit :: visits)).run log =
      let first := (serve extract visit.host state visit.request).run log
      let rest := (serveAll extract state visits).run first.2
      (first.1 :: rest.1, rest.2) := by
  have unfolded : serveAll extract state (visit :: visits) = (do
      let head ← serve extract visit.host state visit.request
      let tail ← serveAll extract state visits
      pure (head :: tail)) := List.mapM_cons
  rw [unfolded]
  rfl

/-- The connections of a run are those of its requests, in their order. -/
theorem served_all (state : AppState) (visits : List Visit)
    (log : List SocketAddr) :
    ∃ records : List (Answer × List SocketAddr),
      (serveAll extract state visits).run log =
          (records.map Prod.fst, log ++ (records.map Prod.snd).flatten) ∧
        List.Forall₂ (fun visit record =>
          Served extract state visit record.1 record.2) visits records := by
  induction visits generalizing log with
  | nil =>
      refine ⟨[], ?_, .nil⟩
      rw [List.map_nil, List.map_nil, List.flatten_nil, List.append_nil]
      rfl
  | cons visit visits inductionHypothesis =>
      obtain ⟨answer, dials, isServed, first⟩ :=
        @served extract state visit log
      obtain ⟨records, areServed, rest⟩ := inductionHypothesis (log ++ dials)
      refine ⟨(answer, dials) :: records, ?_, .cons first rest⟩
      simp only [serveAll_cons, isServed, areServed, List.map_cons,
        List.flatten_cons, List.append_assoc]

/-- What an environment has to give a runtime. -/
structure Starts (environment : Environment) (server : Server) : Prop where
  listens : parseSocketAddr
    ((environment "SNM_RUNTIME_BIND").getD "127.0.0.1:9765") = some server.bind
  exposed : isLoopback (ip server.bind) = false →
    envFlag environment "SNM_RUNTIME_ALLOW_NON_LOOPBACK" = true
  token : environment "SNM_RUNTIME_TOKEN" = some server.state.token
  strong : 32 ≤ server.state.token.utf8ByteSize
  changed : server.state.token ≠ "change-me-with-a-long-random-secret"
  policy : server.state.policy =
    ⟨envFlag environment "SNM_RUNTIME_ALLOW_PUBLIC_TARGETS"⟩

private theorem start_ok_iff {environment : Environment} {server : Server} :
    start environment = .ok server ↔ Starts environment server := by
  constructor
  · intro started
    rw [start] at started
    split at started
    case h_1 => cases started
    case h_2 bind parsed =>
      split at started
      case isTrue => cases started
      case isFalse covered =>
        split at started
        case h_1 => cases started
        case h_2 token found =>
          split at started
          case isTrue => cases started
          case isFalse good =>
            cases started
            rw [not_or, Nat.not_lt] at good
            refine ⟨parsed, ?_, found, good.1, good.2, rfl⟩
            intro exposed
            simpa [exposed] using covered
  · intro starts
    have covered : ¬(!isLoopback (ip server.bind) &&
        !envFlag environment "SNM_RUNTIME_ALLOW_NON_LOOPBACK") = true := by
      cases within : isLoopback (ip server.bind) with
      | true => simp
      | false => simp [starts.exposed within]
    have good : ¬(server.state.token.utf8ByteSize < 32 ∨
        server.state.token = "change-me-with-a-long-random-secret") :=
      not_or.mpr ⟨Nat.not_lt.mpr starts.strong, starts.changed⟩
    rw [start, starts.listens]
    simp only [if_neg covered, starts.token, if_neg good, ← starts.policy]

/-- The addresses that the environment lets the runtime dial. -/
def Reachable (environment : Environment) (address : IpAddr) : Prop :=
  if envFlag environment "SNM_RUNTIME_ALLOW_PUBLIC_TARGETS" then
    ¬InSome unroutableNetworks address
  else
    InSome internalNetworks address

private theorem allows_iff_reachable
    (environment : Environment) (address : IpAddr) :
    NetworkPolicy.allows
        ⟨envFlag environment "SNM_RUNTIME_ALLOW_PUBLIC_TARGETS"⟩ address = true ↔
      Reachable environment address := by
  rw [Reachable]
  cases envFlag environment "SNM_RUNTIME_ALLOW_PUBLIC_TARGETS" with
  | false => exact allows_internal_iff address
  | true => exact allows_public_iff address

/-- A started runtime has a secret of at least 32 bytes, which is not that of the
sample, and listens on a loopback address unless it is told otherwise.  Whatever
it is asked, it opens one connection for each request that presents the secret
and asks for a valid probe of an address that the environment lets it dial, and
no other. -/
theorem started_dials {environment : Environment} {server : Server}
    (started : start environment = .ok server) (visits : List Visit) :
    32 ≤ server.state.token.utf8ByteSize ∧
      server.state.token ≠ "change-me-with-a-long-random-secret" ∧
      (isLoopback (ip server.bind) = false →
        envFlag environment "SNM_RUNTIME_ALLOW_NON_LOOPBACK" = true) ∧
      ∃ records : List (Answer × List SocketAddr),
        (serveAll extract server.state visits).run [] =
            (records.map Prod.fst, (records.map Prod.snd).flatten) ∧
          List.Forall₂ (fun visit record =>
            Served extract server.state visit record.1 record.2)
              visits records ∧
          ∀ record ∈ records, ∀ socket ∈ record.2,
            Reachable environment (ip socket) := by
  have starts := start_ok_iff.mp started
  obtain ⟨records, areServed, each⟩ :=
    @served_all extract server.state visits []
  refine ⟨starts.strong, starts.changed, starts.exposed, records, areServed,
    each, ?_⟩
  have within : List.Forall₂ (fun record visit =>
      (∀ socket ∈ record.2, Reachable environment (ip socket)) ∧
        Served extract server.state visit record.1 record.2) records visits := by
    apply List.Forall₂.flip
    refine each.imp fun visit record isServed => ⟨?_, isServed⟩
    intro socket dialled
    rw [← allows_iff_reachable, ← starts.policy]
    exact isServed.allowed dialled
  exact ((List.forall₂_and_left _ _).mp within).1

/-! ## Strangers -/

/-- The visitor presents the token. -/
def isMember (state : AppState) (visit : Visit) : Bool :=
  (authorize visit.request.headers state.token).isOk

private theorem not_presents_of_isMember {state : AppState} {visit : Visit}
    (stranger : isMember state visit = false) :
    ¬Presents visit.request.headers state.token := by
  intro presents
  rw [isMember, authorize_ok_iff.mpr presents] at stranger
  cases stranger

/-- A visitor without the token is answered what the request alone decides.
Without such visitors everybody else is answered the same, and the same
connections are opened. -/
theorem strangers_learn_nothing (state : AppState) (visits : List Visit)
    (log : List SocketAddr) :
    let outcome := (serveAll extract state visits).run log
    outcome.1.length = visits.length ∧
      (∀ entry ∈ visits.zip outcome.1, isMember state entry.1 = false →
        entry.2 = anonymousAnswer extract entry.1.request) ∧
      (serveAll extract state (visits.filter (isMember state))).run log =
        (((visits.zip outcome.1).filter fun entry =>
            isMember state entry.1).map Prod.snd, outcome.2) := by
  induction visits generalizing log with
  | nil => exact ⟨rfl, by rintro _ ⟨⟩, rfl⟩
  | cons visit visits inductionHypothesis =>
      cases member : isMember state visit with
      | false =>
          have isServed := @serve_of_not_presents extract visit.host state
            visit.request log (not_presents_of_isMember member)
          obtain ⟨length, strangers, members⟩ := inductionHypothesis log
          simp only [serveAll_cons, isServed, List.zip_cons_cons,
            List.length_cons, length, List.forall_mem_cons, member,
            List.filter_cons_of_neg, Bool.false_eq_true, not_false_eq_true,
            implies_true, true_and]
          exact ⟨strangers, members⟩
      | true =>
          obtain ⟨length, strangers, members⟩ := inductionHypothesis
            ((serve extract visit.host state visit.request).run log).2
          simp only [serveAll_cons, List.zip_cons_cons, List.length_cons,
            length, List.forall_mem_cons, member, List.filter_cons_of_pos,
            Bool.true_eq_false, false_imp_iff, true_and, and_true, List.map_cons,
            members]
          exact strangers

end Runs

namespace Sample

/-- Only the token is set. -/
def environment : Environment := fun name =>
  if name = "SNM_RUNTIME_TOKEN" then some "0123456789abcdef0123456789abcdef"
  else none

def server : Server where
  bind := .v4 0x7f000001 9765
  state := ⟨"0123456789abcdef0123456789abcdef", ⟨false⟩⟩

/-- Port 22 of `10.0.0.1` as a client asks for it. -/
def probeMembers : List (String × Value) :=
  let scope : List (String × Value) :=
    [("organization_id", .string "00000000-0000-0000-0000-000000000001"),
      ("site_id", .string "00000000-0000-0000-0000-000000000002"),
      ("routing_domain_id", .string "00000000-0000-0000-0000-000000000003")]
  [("context", .object (scope ++
      [("actor_id", .string "00000000-0000-0000-0000-000000000004"),
        ("correlation_id", .string "00000000-0000-0000-0000-000000000005"),
        ("action_id", .string "00000000-0000-0000-0000-000000000006")])),
    ("target", .object (scope ++ [("address", .string "10.0.0.1")])),
    ("port", .number (.integer 22)),
    ("timeout_ms", .number (.integer 1000))]

def probeBody : Bytes :=
  utf8Bytes (String.ofList (JsonText.write (.object probeMembers)))

private theorem probeBody_ne_nil : [] ≠ probeBody := by
  intro isEmpty
  have noText : "" = String.ofList (JsonText.write (.object probeMembers)) :=
    utf8Bytes_injective isEmpty
  have noCharacter := congrArg String.toList noText
  rw [String.toList_empty, String.toList_ofList, JsonText.write] at noCharacter
  exact List.cons_ne_nil _ _ noCharacter.symm

/-- `Json` as it answers with this body and with an empty one. -/
def extract : Extractor := fun headers body =>
  if headers.get "content-type" ≠ some (utf8Bytes "application/json") then
    .error ⟨415, "Expected request with `Content-Type: application/json`"⟩
  else if body = probeBody then
    .ok (ExecutorCore.Sample.request ⟨3⟩)
  else
    .error ⟨400, "Failed to parse the request body as JSON"⟩

/-- The member posts a body to the route of the probe. -/
def posting (body : Bytes) : Visit where
  host := ExecutorCore.Sample.host
  request :=
    { method := .post
      path := "/v1/execute/tcp-connect"
      headers :=
        ⟨[("content-type", utf8Bytes "application/json"),
          ("authorization",
            utf8Bytes "Bearer 0123456789abcdef0123456789abcdef")]⟩
      body := body }

private theorem extract_posting (body : Bytes) :
    extract (posting body).request.headers body =
      if body = probeBody then .ok (ExecutorCore.Sample.request ⟨3⟩)
      else .error ⟨400, "Failed to parse the request body as JSON"⟩ :=
  if_neg fun different => different rfl

private theorem asks_posting {body : Bytes} (isProbe : body = probeBody) :
    Asks extract server.state (posting body).request
      (ExecutorCore.Sample.request ⟨3⟩) where
  method := rfl
  path := rfl
  extracted := (extract_posting body).trans (if_pos isProbe)
  presents := ⟨rfl, by decide⟩
  accepted := ExecutorCore.Sample.accepted ⟨3⟩

private theorem not_asks_empty (probe : TcpConnectRequest) :
    ¬Asks extract server.state (posting []).request probe := by
  intro asks
  have refused := (extract_posting []).trans (if_neg probeBody_ne_nil)
  cases refused.symm.trans asks.extracted

end Sample

/-- The member of a runtime that has only been given a token asks for a probe,
and then for nothing. -/
theorem started_dials_sample :
    ((serveAll Sample.extract Sample.server.state
        [Sample.posting Sample.probeBody, Sample.posting []]).run []).2 =
      [.v4 0x0a000001 22] := by
  have started : start Sample.environment = .ok Sample.server := by
    decide
  obtain ⟨-, -, -, records, areServed, each, -⟩ :=
    @started_dials Sample.extract _ _ started
      [Sample.posting Sample.probeBody, Sample.posting []]
  rcases each with _ | ⟨probed, _ | ⟨refused, _ | _⟩⟩
  rw [areServed]
  simp only [List.map_cons, List.map_nil, List.flatten_cons, List.flatten_nil,
    (probed.asked _ (Sample.asks_posting rfl)).1,
    (refused.otherwise Sample.not_asks_empty).1]
  rfl

end NetworkManager.SiteRuntime
