import Mathlib.Data.List.Nodup
import NelomaiClient.Checked
import NelomaiClient.NetworkText
import NelomaiClient.PanelContract

/-!
# The configuration of a Unix tunnel

The parser of the Unix service goes line by line through sections and fields;
the client detects the transport of the same text with a scanner of its own.
The parameters of AmneziaWG are sent to the engine as lines, and the service
compares the lines that the engine prints. The decoder of base64 and the
notation of IPv6 addresses are parameters.
-/

namespace NelomaiClient.UnixConfiguration

open Checked NetworkText
open PanelContract (TunnelTransport)

section Parser

inductive ConfigurationError where
  | unsafeDirective
  | invalidStructure
  | invalidValue
  | unsupportedField
  | missingField
  deriving DecidableEq

abbrev Key : Type := List (Fin 256)

structure Endpoint where
  host : Text
  port : ℕ
  deriving DecidableEq

structure ParsedPeer where
  publicKey : Key
  presharedKey : Option Key
  allowedIps : List IpNet
  endpoint : Endpoint
  persistentKeepalive : Option ℕ
  deriving DecidableEq

def parseU32Range (value : Text) : Except ConfigurationError Text := do
  let (minimum, maximum) := (splitOnce '-' value).getD (value, value)
  let minimum ← present (parseUnsigned (2 ^ 32) minimum) .invalidValue
  let maximum ← present (parseUnsigned (2 ^ 32) maximum) .invalidValue
  ensure (minimum ≤ maximum) .invalidValue
  pure (if minimum = maximum then decimal minimum else decimal minimum ++ '-' :: decimal maximum)

inductive FieldKind where
  | unsigned (bound : ℕ)
  | range
  | template
  deriving DecidableEq

def isGraphic (c : Char) : Bool := 0x21 ≤ c.toNat && c.toNat ≤ 0x7E

def isPlain (c : Char) : Bool := isGraphic c || c == ' '

/-- The text that `parse_awg_u32`, `parse_awg_u16`, `parse_awg_range` or `parse_awg_template` keeps. -/
def FieldKind.read (value : Text) : FieldKind → Except ConfigurationError Text
  | .unsigned bound => do
    let _ ← present (parseUnsigned bound value) .invalidValue
    pure value
  | .range => parseU32Range value
  | .template => do
    ensure (value.length ≤ 4096 && value.all isPlain) .invalidValue
    pure value

structure AwgField where
  name : Text
  uapi : Text
  kind : FieldKind
  deriving DecidableEq

def paddingField : AwgField :=
  ⟨"ContentPaddingAddition".toList, "content_padding_addition".toList, .range⟩

def awgFields : List AwgField :=
  [("Jc", "jc", FieldKind.unsigned (2 ^ 32)), ("Jmin", "jmin", .unsigned (2 ^ 32)),
    ("Jmax", "jmax", .unsigned (2 ^ 32)), ("S1", "s1", .unsigned (2 ^ 16)),
    ("S2", "s2", .unsigned (2 ^ 16)), ("S3", "s3", .unsigned (2 ^ 16)),
    ("S4", "s4", .unsigned (2 ^ 16)), ("H1", "h1", .range), ("H2", "h2", .range),
    ("H3", "h3", .range), ("H4", "h4", .range), ("I1", "i1", .template), ("I2", "i2", .template),
    ("I3", "i3", .template), ("I4", "i4", .template), ("I5", "i5", .template),
    ("RekeyAfterTime", "rekey_after_time", .range), ("RekeyTimeout", "rekey_timeout", .range),
    ("RejectAfterTime", "reject_after_time", .range),
    ("KeepaliveTimeout", "keepalive_timeout", .range),
    ("MaxHandshakeAttempts", "max_handshake_attempts", .range)].map
    fun (name, uapi, kind) => ⟨name.toList, uapi.toList, kind⟩

lemma isPlain_of_isDigit (h : c.isDigit) : isPlain c := by
  simp only [Char.isDigit, Bool.and_eq_true, decide_eq_true_eq, ge_iff_le] at h
  have h1 := UInt32.le_iff_toNat_le.mp h.1
  have h2 := UInt32.le_iff_toNat_le.mp h.2
  simp only [isPlain, isGraphic, Char.toNat, Bool.or_eq_true, Bool.and_eq_true, decide_eq_true_eq]
  simp at *
  omega

lemma decimal_plain : (decimal n).all isPlain :=
  List.all_eq_true.mpr fun _ hc => isPlain_of_isDigit (isDigit_decimal hc)

lemma parseUnsigned_ok (h : parseUnsigned bound t = some n) : n < bound ∧ t.all isPlain := by
  obtain ⟨hn, hd⟩ := number_ok h
  have hp : ∀ c ∈ (if t.head? = some '+' then t.tail else t), isPlain c := fun c hc =>
    isPlain_of_isDigit (List.all_eq_true.mp hd c hc)
  refine ⟨hn, ?_⟩
  cases t with
  | nil => rfl
  | cons d t =>
    by_cases hs : d = '+'
    · subst hs
      simpa [show isPlain '+' from by decide] using hp
    · simpa [hs] using hp

lemma parseU32Range_ok (h : parseU32Range t = .ok v) : v.all isPlain ∧ parseU32Range v = .ok v := by
  simp only [parseU32Range, bind_eq_ok, present_eq_ok, ensure_eq_ok, pure_eq_ok] at h
  obtain ⟨m, hm, M, hM, _, hle, rfl⟩ := h
  have hm := (parseUnsigned_ok hm).1
  have hM := (parseUnsigned_ok hM).1
  have hno {n : ℕ} : '-' ∉ decimal n := not_mem_decimal (by decide)
  simp only [parseU32Range, bind_eq_ok, present_eq_ok, ensure_eq_ok, pure_eq_ok]
  have hpm := parseUnsigned_decimal hm
  have hpM := parseUnsigned_decimal hM
  generalize 2 ^ 32 = bound at hpm hpM ⊢
  by_cases heq : m = M
  · subst heq
    simp [splitOnce_eq_none hno, hpm, decimal_plain]
  · simp [heq, splitOnce_append hno, hpm, hpM, decimal_plain, of_decide_eq_true hle,
      show isPlain '-' from by decide]

/-- What is kept is plain, and is read as itself. -/
lemma FieldKind.read_ok {kind : FieldKind} (h : kind.read t = .ok v) :
    v.all isPlain ∧ kind.read v = .ok v := by
  cases kind with
  | unsigned bound =>
    obtain ⟨n, hn, hv⟩ := bind_eq_ok.mp h
    obtain rfl := pure_eq_ok.mp hv
    exact ⟨(parseUnsigned_ok (present_eq_ok.mp hn)).2, h⟩
  | range => exact parseU32Range_ok h
  | template =>
    obtain ⟨_, hg, hv⟩ := bind_eq_ok.mp h
    obtain rfl := pure_eq_ok.mp hv
    exact ⟨(Bool.and_eq_true_iff.mp (ensure_eq_ok.mp hg)).2, h⟩

/-- A field of a table with a text that its kind reads as itself. -/
structure SentField (table : List AwgField) where
  field : AwgField
  known : field ∈ table
  value : Text
  readable : field.kind.read value = .ok value
  deriving DecidableEq

def SentField.parse (field : AwgField) (known : field ∈ table) (value : Text) :
    Except ConfigurationError (SentField table) :=
  match h : field.kind.read value with
  | .error error => .error error
  | .ok text => .ok ⟨field, known, text, (FieldKind.read_ok h).2⟩

/-- Fields with keys of their own: the keys are those that the source collects in `seen`. -/
abbrev Fields : Type := {fields : List (SentField awgFields) // (fields.map (·.field.uapi)).Nodup}

/-- The padding is the last of the fields that are sent. -/
structure Awg3Parameters where
  headerProtectionKey : Key
  fields : Fields
  padding : SentField [paddingField]
  deriving DecidableEq

structure ParsedConfiguration where
  privateKey : Key
  addresses : List IpNet
  dns : List IpAddr
  mtu : Option ℕ
  listenPort : Option ℕ
  peers : List ParsedPeer
  transport : TunnelTransport
  awg3 : Option Awg3Parameters
  deriving DecidableEq

structure Awg3Builder where
  headerProtectionKey : Option Key := none
  contentPaddingAddition : Option (SentField [paddingField]) := none
  fields : Fields := ⟨[], List.nodup_nil⟩

def Awg3Builder.finish (awg3 : Awg3Builder) :
    Except ConfigurationError (Option Awg3Parameters) :=
  if awg3.headerProtectionKey.isNone ∧ awg3.contentPaddingAddition.isNone ∧ awg3.fields.1 = [] then
    .ok none
  else do
    let headerProtectionKey ← present awg3.headerProtectionKey .missingField
    let padding ← present awg3.contentPaddingAddition .missingField
    pure (some ⟨headerProtectionKey, awg3.fields, padding⟩)

def Awg3Builder.insertField (awg3 : Awg3Builder) (f : SentField awgFields) :
    Except ConfigurationError Awg3Builder :=
  if h : f.field.uapi ∈ awg3.fields.1.map (·.field.uapi) then .error .invalidStructure
  else .ok { awg3 with fields := ⟨awg3.fields.1 ++ [f], by
    rw [List.map_append]
    exact List.nodup_append.mpr ⟨awg3.fields.2, by simp, fun key hm _ hs he =>
      h ((show key = f.field.uapi from he.trans (List.mem_singleton.mp hs)) ▸ hm)⟩⟩ }

structure InterfaceBuilder where
  privateKey : Option Key := none
  addresses : List IpNet := []
  dns : List IpAddr := []
  mtu : Option ℕ := none
  listenPort : Option ℕ := none
  awg3 : Awg3Builder := {}

structure PeerBuilder where
  publicKey : Option Key := none
  presharedKey : Option Key := none
  allowedIps : List IpNet := []
  endpoint : Option Endpoint := none
  persistentKeepalive : Option ℕ := none

inductive Section where
  | none
  | interface
  | peer (builder : PeerBuilder)

/-- What the lines so far have given. -/
structure Builder where
  interface : InterfaceBuilder := {}
  peers : List ParsedPeer := []
  current : Section := .none

structure Readers where
  /-- The decoder of base64. -/
  decode : Text → Option Key
  ipv6 : Ipv6Text

variable (readers : Readers)

def parseKey (value : Text) : Except ConfigurationError Key := do
  let decoded ← present (readers.decode value) .invalidValue
  ensure (decoded.length == 32) .invalidValue
  pure decoded

def parseList (parse : Text → Option α) (value : Text) : Except ConfigurationError (List α) :=
  (value.splitOn ',').mapM fun entry => do
    ensure (trim entry != []) .invalidValue
    present (parse (trim entry)) .invalidValue

def parseNonzeroPort (value : Text) : Except ConfigurationError ℕ := do
  let port ← present (parseUnsigned (2 ^ 16) value) .invalidValue
  ensure (port != 0) .invalidValue
  pure port

def parseInterfaceField (i : InterfaceBuilder) (key value : Text) :
    Except ConfigurationError InterfaceBuilder :=
  if key = "PrivateKey".toList then do
    ensure i.privateKey.isNone .invalidStructure
    let privateKey ← parseKey readers value
    pure { i with privateKey }
  else if key = "Address".toList then do
    ensure i.addresses.isEmpty .invalidStructure
    let addresses ← parseList (parseIpNet readers.ipv6) value
    pure { i with addresses }
  else if key = "DNS".toList then do
    ensure i.dns.isEmpty .invalidStructure
    let dns ← parseList (parseStdIpAddr readers.ipv6) value
    pure { i with dns }
  else if key = "MTU".toList then do
    ensure i.mtu.isNone .invalidStructure
    let mtu ← present (parseUnsigned (2 ^ 32) value) .invalidValue
    ensure (576 ≤ mtu && mtu ≤ 65535) .invalidValue
    pure { i with mtu }
  else if key = "ListenPort".toList then do
    ensure i.listenPort.isNone .invalidStructure
    let listenPort ← parseNonzeroPort value
    pure { i with listenPort }
  else if key = "HeaderProtectionKey".toList then do
    ensure i.awg3.headerProtectionKey.isNone .invalidStructure
    let headerProtectionKey ← parseKey readers value
    pure { i with awg3 := { i.awg3 with headerProtectionKey } }
  else if key = "ContentPaddingAddition".toList then do
    ensure i.awg3.contentPaddingAddition.isNone .invalidStructure
    let padding : SentField [paddingField] ← SentField.parse paddingField List.mem_cons_self value
    pure { i with awg3 := { i.awg3 with contentPaddingAddition := some padding } }
  else match h : awgFields.find? (·.name == key) with
    | none => .error .unsupportedField
    | some field => do
      let f ← SentField.parse field (List.mem_of_find?_eq_some h) value
      let awg3 ← i.awg3.insertField f
      pure { i with awg3 }

/-- The parts before and after the first bracket that a colon follows. -/
def splitBracket : Text → Option (Text × Text)
  | [] => none
  | c :: rest =>
    if c = ']' ∧ rest.head? = some ':' then some ([], rest.tail)
    else (splitBracket rest).map fun (s, t) => (c :: s, t)

def parseEndpoint (value : Text) : Except ConfigurationError Endpoint := do
  let (host, port) ← present (if value.head? = some '[' then splitBracket value.tail
    else (splitOnce ':' value.reverse).map fun (port, host) => (host.reverse, port.reverse))
    .invalidValue
  ensure (host != [] && !host.any fun c => isWhitespace c || c == '/' || c == '\\') .invalidValue
  let port ← parseNonzeroPort port
  pure ⟨host, port⟩

def parsePeerField (p : PeerBuilder) (key value : Text) :
    Except ConfigurationError PeerBuilder :=
  if key = "PublicKey".toList then do
    ensure p.publicKey.isNone .invalidStructure
    let publicKey ← parseKey readers value
    pure { p with publicKey }
  else if key = "PresharedKey".toList then do
    ensure p.presharedKey.isNone .invalidStructure
    let presharedKey ← parseKey readers value
    pure { p with presharedKey }
  else if key = "AllowedIPs".toList then do
    ensure p.allowedIps.isEmpty .invalidStructure
    let allowedIps ← parseList (parseIpNet readers.ipv6) value
    pure { p with allowedIps }
  else if key = "Endpoint".toList then do
    ensure p.endpoint.isNone .invalidStructure
    let endpoint ← parseEndpoint value
    pure { p with endpoint }
  else if key = "PersistentKeepalive".toList then do
    ensure p.persistentKeepalive.isNone .invalidStructure
    let persistentKeepalive ← present (parseUnsigned (2 ^ 16) value) .invalidValue
    pure { p with persistentKeepalive }
  else .error .unsupportedField

/-- The end of a section; a peer must be complete. -/
def finishPeer (b : Builder) : Except ConfigurationError Builder :=
  match b.current with
  | .peer p => do
    let publicKey ← present p.publicKey .missingField
    ensure (!p.allowedIps.isEmpty) .missingField
    let endpoint ← present p.endpoint .missingField
    pure { b with
      current := .none, peers := b.peers ++ [{ p with publicKey, endpoint }] }
  | _ => pure { b with current := .none }

/-- Fields that run commands or change the routing. -/
def unsafeDirectives : List Text :=
  ["PreUp", "PostUp", "PreDown", "PostDown", "Table", "SaveConfig"].map String.toList

/-- One line of the text: a section, or a field of the section that is open. -/
def parseLine (b : Builder) (rawLine : Text) : Except ConfigurationError Builder :=
  let line := trim rawLine
  if line = [] ∨ line.head? = some '#' then pure b
  else if line = "[Interface]".toList then do
    let b ← finishPeer b
    pure { b with current := .interface }
  else if line = "[Peer]".toList then do
    let b ← finishPeer b
    pure { b with current := .peer {} }
  else if line.head? = some '[' then .error .invalidStructure
  else do
    let (rawKey, rawValue) ← present (splitOnce '=' line) .invalidStructure
    ensure (trim rawValue != []) .invalidValue
    ensure (!unsafeDirectives.contains (trim rawKey)) .unsafeDirective
    match b.current with
    | .interface => do
      let interface ← parseInterfaceField readers b.interface (trim rawKey) (trim rawValue)
      pure { b with interface }
    | .peer p => do
      let p ← parsePeerField readers p (trim rawKey) (trim rawValue)
      pure { b with current := .peer p }
    | .none => .error .invalidStructure

def parseConfiguration (input : Text) : Except ConfigurationError ParsedConfiguration := do
  let b ← (lines input).foldlM (parseLine readers) {}
  let b ← finishPeer b
  let privateKey ← present b.interface.privateKey .missingField
  ensure (!b.interface.addresses.isEmpty && !b.peers.isEmpty) .missingField
  let awg3 ← b.interface.awg3.finish
  pure { b.interface with
    privateKey, peers := b.peers, awg3
    transport := if awg3.isSome then .amneziaWg3 else .wireGuard }

end Parser

section Transport

structure Scan where
  inInterface : Bool := false
  headerProtectionKey : Bool := false
  contentPaddingAddition : Bool := false

def detectLine (s : Scan) (rawLine : Text) : Scan :=
  let line := trim rawLine
  if line = [] ∨ line.head? = some '#' then s
  else if line.head? = some '[' ∧ line.getLast? = some ']' then
    { s with inInterface := eqIgnoreAsciiCase line "[Interface]".toList }
  else if !s.inInterface then s
  else match splitOnce '=' line with
    | none => s
    | some (key, value) =>
      if trim value = [] then s
      else if (trim key).map Char.toLower = "headerprotectionkey".toList then
        { s with headerProtectionKey := true }
      else if (trim key).map Char.toLower = "contentpaddingaddition".toList then
        { s with contentPaddingAddition := true }
      else s

/-- The scanner of the client. -/
def detectConfigurationTransport (configuration : Text) : TunnelTransport :=
  let s := (lines configuration).foldl detectLine {}
  if s.headerProtectionKey && s.contentPaddingAddition then .amneziaWg3 else .wireGuard

variable {readers : Readers}

/-- What the scanner knows of the parser's state. -/
structure Agrees (b : Builder) (s : Scan) : Prop where
  inInterface : s.inInterface = true ↔ b.current = .interface
  header : s.headerProtectionKey = b.interface.awg3.headerProtectionKey.isSome
  padding : s.contentPaddingAddition = b.interface.awg3.contentPaddingAddition.isSome

lemma finishPeer_interface (h : finishPeer b = .ok b') : b'.interface = b.interface := by
  unfold finishPeer at h
  split at h
  · simp only [bind_eq_ok, pure_eq_ok] at h
    obtain ⟨_, _, _, _, _, _, rfl⟩ := h
    rfl
  · rw [← pure_eq_ok.mp h]

lemma insertField_ok {awg3 awg3' : Awg3Builder} (h : awg3.insertField f = .ok awg3') :
    awg3'.headerProtectionKey = awg3.headerProtectionKey ∧
      awg3'.contentPaddingAddition = awg3.contentPaddingAddition := by
  unfold Awg3Builder.insertField at h
  split at h
  · cases h
  · cases h
    exact ⟨rfl, rfl⟩

def otherKeys : List Text := ["PrivateKey", "Address", "DNS", "MTU", "ListenPort"].map String.toList

/-- What an accepted field of the interface section does to the two keys of AmneziaWG. -/
lemma parseInterfaceField_cases (h : parseInterfaceField readers i key value = .ok i') :
    (key ∈ otherKeys ++ awgFields.map (·.name) ∧
      i'.awg3.headerProtectionKey = i.awg3.headerProtectionKey ∧
      i'.awg3.contentPaddingAddition = i.awg3.contentPaddingAddition) ∨
    (key = "HeaderProtectionKey".toList ∧
      ∃ k, i'.awg3 = { i.awg3 with headerProtectionKey := some k }) ∨
    (key = "ContentPaddingAddition".toList ∧
      ∃ f, i'.awg3 = { i.awg3 with contentPaddingAddition := some f }) := by
  unfold parseInterfaceField at h
  split_ifs at h with h1 h2 h3 h4 h5 h6 h7
  case pos | pos | pos | pos | pos =>
    refine .inl ⟨List.mem_append_left _ (by simp_all [otherKeys]), ?_⟩
    simp only [bind_eq_ok, pure_eq_ok] at h
    obtain ⟨_, _, _, _, h⟩ := h
    first | (cases h; exact ⟨rfl, rfl⟩) | (obtain ⟨_, _, rfl⟩ := h; exact ⟨rfl, rfl⟩)
  case pos =>
    simp only [bind_eq_ok, pure_eq_ok] at h
    obtain ⟨_, _, k, _, rfl⟩ := h
    exact .inr (.inl ⟨h6, k, rfl⟩)
  case pos =>
    simp only [bind_eq_ok, pure_eq_ok] at h
    obtain ⟨_, _, f, _, rfl⟩ := h
    exact .inr (.inr ⟨h7, f, rfl⟩)
  case neg =>
    split at h
    · cases h
    case h_2 field hfind =>
      simp only [bind_eq_ok, pure_eq_ok] at h
      obtain ⟨f, _, awg3, hins, rfl⟩ := h
      refine .inl ⟨List.mem_append_right _ (List.mem_map.mpr
        ⟨field, List.mem_of_find?_eq_some hfind, by simpa using List.find?_some hfind⟩), ?_⟩
      exact insertField_ok hins

/-- In lower case, no other key of the interface section is one of the two. -/
lemma lower_ne (h : key ∈ otherKeys ++ awgFields.map (·.name)) :
    key.map Char.toLower ≠ "headerprotectionkey".toList ∧
      key.map Char.toLower ≠ "contentpaddingaddition".toList :=
  (by decide : ∀ key ∈ otherKeys ++ awgFields.map (·.name),
    key.map Char.toLower ≠ "headerprotectionkey".toList ∧
      key.map Char.toLower ≠ "contentpaddingaddition".toList) key h

lemma detectLine_agrees (h : parseLine readers b raw = .ok b') (ha : Agrees b s) :
    Agrees b' (detectLine s raw) := by
  unfold parseLine at h
  unfold detectLine
  simp only at h ⊢
  split_ifs at h with hskip hint hpeer hopen
  · rw [if_pos hskip, ← pure_eq_ok.mp h]
    exact ha
  · obtain ⟨b1, hfin, hb⟩ := bind_eq_ok.mp h
    rw [if_neg hskip, if_pos (by rw [hint]; decide), ← pure_eq_ok.mp hb]
    have hi := finishPeer_interface hfin
    exact ⟨by simp [hint, eqIgnoreAsciiCase], by simp [hi, ha.header], by simp [hi, ha.padding]⟩
  · obtain ⟨b1, hfin, hb⟩ := bind_eq_ok.mp h
    rw [if_neg hskip, if_pos (by rw [hpeer]; decide), ← pure_eq_ok.mp hb]
    have hi := finishPeer_interface hfin
    have hno : eqIgnoreAsciiCase "[Peer]".toList "[Interface]".toList = false := by decide
    exact ⟨by simp only [hpeer, hno]; simp, by simp [hi, ha.header], by simp [hi, ha.padding]⟩
  · rw [if_neg hskip, if_neg fun hb => hopen hb.1]
    simp only [bind_eq_ok, present_eq_ok, ensure_eq_ok] at h
    obtain ⟨⟨rawKey, rawValue⟩, hsplit, _, hval, _, _, h⟩ := h
    have hval : trim rawValue ≠ [] := by simpa using hval
    cases hc : b.current with
    | none => simp [hc] at h
    | peer p =>
      simp only [hc, bind_eq_ok, pure_eq_ok] at h
      obtain ⟨p', _, rfl⟩ := h
      have hin : s.inInterface = false := by
        rw [Bool.eq_false_iff, ne_eq, ha.inInterface, hc]
        simp
      rw [if_pos (by simp [hin])]
      exact ⟨by simp [hin], ha.header, ha.padding⟩
    | interface =>
      simp only [hc, bind_eq_ok, pure_eq_ok] at h
      obtain ⟨i, hi, rfl⟩ := h
      have hin : s.inInterface = true := ha.inInterface.mpr hc
      rw [if_neg (by simp [hin]), hsplit]
      simp only [hval, if_false]
      rcases parseInterfaceField_cases hi with ⟨hk, hh, hp⟩ | ⟨hk, k, hw⟩ | ⟨hk, f, hw⟩
      · obtain ⟨hh', hp'⟩ := lower_ne hk
        rw [if_neg hh', if_neg hp']
        exact ⟨by simp [hin], by simp [hh, ha.header], by simp [hp, ha.padding]⟩
      · rw [if_pos (by rw [hk]; decide)]
        exact ⟨by simp [hin], by simp [hw], by simp [hw, ha.padding]⟩
      · rw [if_neg (by rw [hk]; decide), if_pos (by rw [hk]; decide)]
        exact ⟨by simp [hin], by simp [hw, ha.header], by simp [hw]⟩

lemma finish_ok {awg3 : Awg3Builder} (h : awg3.finish = .ok result) :
    result.isSome = (awg3.headerProtectionKey.isSome && awg3.contentPaddingAddition.isSome) := by
  unfold Awg3Builder.finish at h
  split at h
  case isTrue hn =>
    cases h
    simp_all
  case isFalse =>
    simp only [bind_eq_ok, present_eq_ok, pure_eq_ok] at h
    obtain ⟨k, hk, padding, hp, rfl⟩ := h
    simp [hk, hp]

theorem detectConfigurationTransport_eq {input : Text} {c : ParsedConfiguration}
    (h : parseConfiguration readers input = .ok c) :
    detectConfigurationTransport input = c.transport := by
  simp only [parseConfiguration, bind_eq_ok, pure_eq_ok] at h
  obtain ⟨b, hb, b', hfin, _, _, _, _, awg3, hawg, rfl⟩ := h
  have ha : Agrees b ((lines input).foldl detectLine {}) :=
    foldlM_ok (fun _ _ _ _ => detectLine_agrees) hb ⟨by simp, rfl, rfl⟩
  rw [finishPeer_interface hfin] at hawg
  simp only [detectConfigurationTransport, ha.header, ha.padding, finish_ok hawg]

/-- The key of 32 zero bytes in base64, and readers that know it. -/
def zeroKey : Text := List.replicate 43 'A' ++ ['=']

def sampleReaders : Readers where
  decode t := if t = zeroKey then some (List.replicate 32 0) else none
  ipv6 := ⟨fun _ => "::".toList, fun t => if t = "::".toList then some 0 else none⟩

def sampleText (jc : String) : Text :=
  ["[Interface]".toList, "PrivateKey = ".toList ++ zeroKey, "Address = 10.0.0.2/32".toList,
    "HeaderProtectionKey = ".toList ++ zeroKey, "ContentPaddingAddition = 8-16".toList,
    "Jc = ".toList ++ jc.toList, [], "[Peer]".toList, "PublicKey = ".toList ++ zeroKey,
    "AllowedIPs = 0.0.0.0/0".toList, "Endpoint = 192.0.2.1:51820".toList].flatMap (· ++ ['\n'])

section Samples

variable (jc : String) (h : (FieldKind.unsigned (2 ^ 32)).read jc.toList = .ok jc.toList)

def sampleParameters : Awg3Parameters where
  headerProtectionKey := List.replicate 32 0
  fields := ⟨[⟨⟨"Jc".toList, "jc".toList, .unsigned (2 ^ 32)⟩, by decide, jc.toList, h⟩], by simp⟩
  padding := ⟨paddingField, List.mem_cons_self, "8-16".toList, by decide⟩

def sampleConfiguration : ParsedConfiguration where
  privateKey := List.replicate 32 0
  addresses := [⟨.v4 10 0 0 2, 32, by decide⟩]
  dns := []
  mtu := none
  listenPort := none
  peers := [⟨List.replicate 32 0, none, [⟨.v4 0 0 0 0, 0, by decide⟩], ⟨"192.0.2.1".toList, 51820⟩, none⟩]
  transport := .amneziaWg3
  awg3 := some (sampleParameters jc h)

end Samples

theorem seven_transport :
    parseConfiguration sampleReaders (sampleText "7") = .ok (sampleConfiguration "7" (by decide)) ∧
      detectConfigurationTransport (sampleText "7") = .amneziaWg3 := by
  have h : parseConfiguration sampleReaders (sampleText "7") =
      .ok (sampleConfiguration "7" (by decide)) := by
    decide +kernel
  exact ⟨h, detectConfigurationTransport_eq h⟩

end Transport

section Verification

def asHex (key : Key) : Text :=
  key.flatMap fun byte => [Nat.digitChar (byte.val / 16), Nat.digitChar (byte.val % 16)]

def SentField.entry (text : FieldKind → Text → Text) (f : SentField table) : Text × Text :=
  (f.field.uapi, text f.field.kind f.value)

def Awg3Parameters.entries (text : FieldKind → Text → Text) (p : Awg3Parameters) :
    List (Text × Text) :=
  ("header_protection_key".toList, asHex p.headerProtectionKey) ::
    (p.fields.1.map (·.entry text) ++ [p.padding.entry text])

def Awg3Parameters.sent (p : Awg3Parameters) : List (Text × Text) := p.entries fun _ value => value

def uapiLine (entry : Text × Text) : Text := entry.1 ++ '=' :: entry.2

def uapiConfiguration (p : Awg3Parameters) : Text := (p.sent.map uapiLine).flatMap (· ++ ['\n'])

/-- The loop of `read_awg3_configuration` over what `read_line` reads. -/
def verifyLines (expected : List Text) : List Bool → List Text → Bool
  | _, [] => false
  | matched, line :: rest =>
    if line = ['\n'] then false
    else
      let value := line.rdropWhile fun c => c == '\r' || c == '\n'
      if value = "errno=0".toList then rest.head? == some ['\n'] && matched.all id
      else match splitOnce '=' value with
        | none => verifyLines expected matched rest
        | some (key, _) =>
          match expected.findIdx? fun e => (key ++ ['=']).isPrefixOf e with
          | none => verifyLines expected matched rest
          | some index =>
            if expected[index]? ≠ some value then false
            else verifyLines expected (matched.set index true) rest

def readAwg3Configuration (answer : Text) (p : Awg3Parameters) : Bool :=
  let expected := lines (uapiConfiguration p)
  verifyLines expected (List.replicate expected.length false) (splitInclusive answer)

/-- The text that an engine prints which has stored a parameter by value. -/
def FieldKind.print : FieldKind → Text → Text
  | .unsigned bound, value => ((parseUnsigned bound value).map decimal).getD value
  | .range, value => (parseU32Range value).toOption.getD value
  | .template, value => value

/-- The lines of an engine that has stored the parameters, in any order and among others. -/
structure Answers (p : Awg3Parameters) (ls : List Text) : Prop where
  plain : ∀ l ∈ ls, '\n' ∉ l ∧ l ≠ [] ∧ l ≠ "errno=0".toList ∧ l.getLast? ≠ some '\r'
  own : ∀ l ∈ ls, ∀ entry ∈ p.entries FieldKind.print,
    (splitOnce '=' l).map (·.1) = some entry.1 → l = uapiLine entry
  all : ∀ entry ∈ p.entries FieldKind.print, uapiLine entry ∈ ls

def answerText (ls : List Text) : Text := (ls ++ ["errno=0".toList, []]).flatMap (· ++ ['\n'])

/-- The texts of the numbers are canonical decimals. -/
def Canonical (p : Awg3Parameters) : Prop := ∀ f ∈ p.fields.1, f.field.kind.print f.value = f.value

section Loop

lemma rdropWhile_line (h : l.getLast? ≠ some '\r') (hn : '\n' ∉ l) :
    (l ++ ['\n']).rdropWhile (fun c => c == '\r' || c == '\n') = l := by
  rw [List.rdropWhile_concat_pos _ _ _ (by decide), List.rdropWhile_eq_self_iff]
  intro hl hp
  obtain hr | hr : l.getLast hl = '\r' ∨ l.getLast hl = '\n' := by simpa using hp
  · exact h (List.getLast?_eq_some_getLast hl ▸ congrArg some hr)
  · exact hn (hr ▸ List.getLast_mem hl)

/-- The loop accepts lines among which each expected line is, and no other with its key. -/
lemma verifyLines_true {matched : List Bool} (hnd : expected.Nodup)
    (hm : matched.length = expected.length)
    (hp : ∀ l ∈ ls, '\n' ∉ l ∧ l ≠ [] ∧ l ≠ "errno=0".toList ∧ l.getLast? ≠ some '\r')
    (ho : ∀ l ∈ ls, ∀ key value, splitOnce '=' l = some (key, value) → ∀ e ∈ expected,
      (key ++ ['=']).isPrefixOf e → e = l)
    (hs : ∀ e ∈ expected, splitOnce '=' e ≠ none)
    (ha : ∀ (i : ℕ) e, expected[i]? = some e → matched[i]? = some true ∨ e ∈ ls) :
    verifyLines expected matched ((ls ++ ["errno=0".toList, []]).map (· ++ ['\n'])) = true := by
  induction ls generalizing matched with
  | nil =>
    have hall : matched.all id := by
      refine List.all_eq_true.mpr fun x hx => ?_
      obtain ⟨i, hi, rfl⟩ := List.getElem_of_mem hx
      have := ha i expected[i] (List.getElem?_eq_getElem (hm ▸ hi))
      simpa [List.getElem?_eq_getElem hi] using this
    have herr : ("errno=0".toList ++ ['\n']).rdropWhile (fun c => c == '\r' || c == '\n') =
        "errno=0".toList := by decide
    rw [List.nil_append, List.map_cons, verifyLines, herr, if_neg (by decide), if_pos rfl, hall]
    rfl
  | cons l ls ih =>
    obtain ⟨⟨hn, hne, herr, hr⟩, hp⟩ := List.forall_mem_cons.mp hp
    obtain ⟨hol, ho⟩ := List.forall_mem_cons.mp ho
    -- a line that is not expected leaves the marks alone
    have hskip (hl : l ∉ expected) : verifyLines expected matched
        ((ls ++ ["errno=0".toList, []]).map (· ++ ['\n'])) = true := by
      refine ih hm hp ho fun i e he => (ha i e he).imp_right fun hmem => ?_
      refine (List.mem_cons.mp hmem).resolve_left fun hel => ?_
      exact hl (hel ▸ List.mem_of_getElem? he)
    rw [List.cons_append, List.map_cons, verifyLines, rdropWhile_line hr hn, if_neg (by simp [hne]),
      if_neg herr]
    cases hsplit : splitOnce '=' l with
    | none => exact hskip fun hl => hs l hl hsplit
    | some kv =>
      obtain ⟨key, value⟩ := kv
      dsimp only
      cases hfind : expected.findIdx? fun e => (key ++ ['=']).isPrefixOf e with
      | none =>
        refine hskip fun hl => ?_
        have hpre : (key ++ ['=']).isPrefixOf l :=
          List.isPrefixOf_iff_prefix.mpr ⟨value, by simp [(splitOnce_eq_some hsplit).1]⟩
        exact Bool.false_ne_true ((List.findIdx?_eq_none_iff.mp hfind l hl).symm.trans hpre)
      | some index =>
        obtain ⟨hi, hpre, -⟩ := List.findIdx?_eq_some_iff_getElem.mp hfind
        have hel : expected[index] = l := hol key value hsplit _ (List.getElem_mem hi) hpre
        have heq : expected[index]? = some l := hel ▸ List.getElem?_eq_getElem hi
        simp only [heq, ne_eq, not_true_eq_false, if_false]
        refine ih (by simpa using hm) hp ho fun i e he => ?_
        by_cases hii : index = i
        · subst hii
          exact .inl (by simp [hm, hi])
        · rw [List.getElem?_set_ne hii]
          refine (ha i e he).imp_right fun hmem => (List.mem_cons.mp hmem).resolve_left ?_
          rintro rfl
          exact hii ((List.getElem?_inj hi hnd).mp (heq.trans he.symm))

/-- The loop accepts only lines among which each expected line is that is not marked. -/
lemma mem_of_verifyLines {matched : List Bool} (hm : matched.length = expected.length)
    (h : verifyLines expected matched answer = true) {i : ℕ} (he : expected[i]? = some e) :
    matched[i]? = some true ∨
      e ∈ answer.map (·.rdropWhile fun c => c == '\r' || c == '\n') := by
  induction answer generalizing matched with
  | nil => simp [verifyLines] at h
  | cons line rest ih =>
    have hrest {matched' : List Bool} (hm' : matched'.length = expected.length)
        (h' : verifyLines expected matched' rest = true) := (ih hm' h').imp_right fun hmem =>
      List.mem_cons_of_mem (line.rdropWhile fun c => c == '\r' || c == '\n') hmem
    rw [verifyLines] at h
    split at h
    · cases h
    dsimp only at h
    split at h
    · -- the end of the answer: every mark is set
      have hi : i < matched.length := hm ▸ (List.getElem?_eq_some_iff.mp he).1
      rw [Bool.and_eq_true_iff, List.all_eq_true] at h
      exact .inl ((List.getElem?_eq_getElem hi).trans
        (congrArg some (h.2 _ (List.getElem_mem hi))))
    split at h
    · exact hrest hm h
    split at h
    · exact hrest hm h
    case h_2 index _ =>
      split at h
      · cases h
      case isFalse hv =>
        by_cases hi : index = i
        · rw [hi, not_not, he] at hv
          exact .inr (Option.some.inj hv ▸ List.mem_cons_self)
        · simpa only [List.getElem?_set_ne hi, List.map_cons] using hrest (List.length_set.trans hm) h

end Loop

variable {readers : Readers} {p : Awg3Parameters}

lemma asHex_plain (key : Key) : (asHex key).all isPlain := by
  have hb : ∀ b : Fin 256, isPlain (Nat.digitChar (b.val / 16)) ∧
      isPlain (Nat.digitChar (b.val % 16)) := by
    decide +kernel
  simp [asHex, hb]

/-- A key that is read back from its line, which is not the last of an answer. -/
def isKey (key : Text) : Bool :=
  (key.all fun c => isPlain c && c != '=') && key != "errno".toList

/-- The keys of the tables are different from those of the other lines. -/
lemma table_plain : ∀ field ∈ awgFields ++ [paddingField],
    isKey field.uapi ∧ field.uapi ≠ "header_protection_key".toList ∧
      (field ∈ awgFields → field.uapi ≠ paddingField.uapi) := by
  decide

lemma padding_field (f : SentField [paddingField]) : f.field = paddingField :=
  List.mem_singleton.mp f.known

lemma entries_nodup (text : FieldKind → Text → Text) : ((p.entries text).map (·.1)).Nodup := by
  have hkeys : (p.entries text).map (·.1) = "header_protection_key".toList ::
      (p.fields.1.map (·.field.uapi) ++ [paddingField.uapi]) := by
    simp [Awg3Parameters.entries, SentField.entry, padding_field]
  have hmem : ∀ key ∈ p.fields.1.map (·.field.uapi),
      key ≠ "header_protection_key".toList ∧ key ≠ paddingField.uapi :=
    List.forall_mem_map.mpr fun f _ =>
      (table_plain f.field (List.mem_append_left _ f.known)).2.imp_right (· f.known)
  rw [hkeys]
  refine List.nodup_cons.mpr ⟨fun hm => ?_, List.nodup_append.mpr ⟨p.fields.2, by simp,
    fun key hk _ hs he => (hmem key hk).2 (he.trans (List.mem_singleton.mp hs))⟩⟩
  rcases List.mem_append.mp hm with hm | hm
  · exact (hmem _ hm).1 rfl
  · exact absurd (List.mem_singleton.mp hm) (by decide)

lemma entries_plain {text : FieldKind → Text → Text}
    (ht : ∀ kind v, v.all isPlain → (text kind v).all isPlain) :
    ∀ entry ∈ p.entries text, isKey entry.1 ∧ entry.2.all isPlain := by
  have hh : isKey "header_protection_key".toList := by decide
  refine List.forall_mem_cons.mpr ⟨⟨hh, asHex_plain _⟩, List.forall_mem_append.mpr ⟨?_, ?_⟩⟩
  · refine List.forall_mem_map.mpr fun f _ => ?_
    exact ⟨(table_plain _ (List.mem_append_left _ f.known)).1,
      ht _ _ (FieldKind.read_ok f.readable).1⟩
  · refine List.forall_mem_singleton.mpr ?_
    exact ⟨(table_plain _ (List.mem_append_right _ p.padding.known)).1,
      ht _ _ (FieldKind.read_ok p.padding.readable).1⟩

lemma sent_plain : ∀ entry ∈ p.sent, isKey entry.1 ∧ entry.2.all isPlain :=
  entries_plain fun _ _ h => h

lemma print_plain (kind : FieldKind) {v : Text} (h : v.all isPlain) :
    (kind.print v).all isPlain := by
  cases kind with
  | unsigned bound =>
    rw [FieldKind.print]
    cases parseUnsigned bound v with
    | none => exact h
    | some n => exact decimal_plain
  | range =>
    rw [FieldKind.print]
    cases hv : parseU32Range v with
    | error => exact h
    | ok w => exact (parseU32Range_ok hv).1
  | template => exact h

lemma print_range {kind : FieldKind} (hk : kind = .range) (h : kind.read v = .ok v) :
    kind.print v = v := by
  subst hk
  simp [FieldKind.print, show parseU32Range v = .ok v from h, Except.toOption]

lemma printed_eq (h : Canonical p) : p.entries FieldKind.print = p.sent := by
  have hk : p.padding.field.kind = .range := congrArg AwgField.kind (padding_field p.padding)
  simp only [Awg3Parameters.sent, Awg3Parameters.entries, SentField.entry,
    print_range hk p.padding.readable]
  rw [List.map_congr_left fun f hf => congrArg (Prod.mk _) (h f hf)]

lemma splitOnce_uapiLine {entry : Text × Text} (h : isKey entry.1) :
    splitOnce '=' (uapiLine entry) = some entry :=
  splitOnce_append fun hm => by
    simpa using List.all_eq_true.mp (Bool.and_eq_true_iff.mp h).1 '=' hm

lemma uapiLine_ne {entry : Text × Text} (h : isKey entry.1) :
    uapiLine entry ≠ [] ∧ uapiLine entry ≠ "errno=0".toList := by
  refine ⟨by simp [uapiLine], fun herr => ?_⟩
  have hsplit := splitOnce_uapiLine h
  rw [herr, show splitOnce '=' "errno=0".toList = some ("errno".toList, ['0']) by decide] at hsplit
  exact absurd (Option.some.inj hsplit ▸ h) (by decide)

/-- A line of plain texts has no line feed and no carriage return. -/
lemma uapiLine_plain {entry : Text × Text} (hk : isKey entry.1) (hv : entry.2.all isPlain) :
    '\n' ∉ uapiLine entry ∧ (uapiLine entry).getLast? ≠ some '\r' := by
  have hp : ∀ c ∈ uapiLine entry, isPlain c := by
    have hk : ∀ c ∈ entry.1, isPlain c ∧ c ≠ '=' := by
      simpa using (Bool.and_eq_true_iff.mp hk).1
    simp only [uapiLine, List.mem_append, List.mem_cons]
    rintro c (hc | rfl | hc)
    · exact (hk c hc).1
    · decide
    · exact List.all_eq_true.mp hv c hc
  exact ⟨fun hn => absurd (hp _ hn) (by decide),
    fun hr => absurd (hp _ (List.mem_of_getLast? hr)) (by decide)⟩

lemma splitInclusive_lines {ls : List Text} (h : ∀ l ∈ ls, '\n' ∉ l) :
    splitInclusive (ls.flatMap (· ++ ['\n'])) = ls.map (· ++ ['\n']) := by
  induction ls with
  | nil => rfl
  | cons l ls ih =>
    obtain ⟨hl, hls⟩ := List.forall_mem_cons.mp h
    rw [List.flatMap_cons, List.append_assoc, List.singleton_append, splitInclusive_append hl,
      ih hls, List.map_cons]

lemma lines_sent : lines (uapiConfiguration p) = p.sent.map uapiLine :=
  lines_flatMap (List.forall_mem_map.mpr fun entry he =>
    uapiLine_plain (sent_plain entry he).1 (sent_plain entry he).2)

lemma splitInclusive_answer (h : Answers p ls) :
    splitInclusive (answerText ls) = (ls ++ ["errno=0".toList, []]).map (· ++ ['\n']) := by
  refine splitInclusive_lines ?_
  simp only [List.forall_mem_append]
  exact ⟨fun l hl => (h.plain l hl).1, by decide⟩

lemma accepts_canonical (hcan : Canonical p) (h : Answers p ls) :
    readAwg3Configuration (answerText ls) p = true := by
  have hown := h.own
  have hall := h.all
  rw [printed_eq hcan] at hown hall
  have hsplit (entry) (he : entry ∈ p.sent) := splitOnce_uapiLine (sent_plain entry he).1
  rw [readAwg3Configuration, lines_sent, splitInclusive_answer h]
  refine verifyLines_true ?_ (by simp) h.plain ?_ ?_ ?_
  · refine (List.Nodup.of_map _ (entries_nodup _)).map_on fun e he e' he' heq => ?_
    exact Option.some.inj ((hsplit e he).symm.trans (heq ▸ hsplit e' he'))
  · intro l hl key value hs e he hpre
    obtain ⟨entry, hent, rfl⟩ := List.mem_map.mp he
    obtain ⟨r, hr⟩ := List.isPrefixOf_iff_prefix.mp hpre
    have hk : splitOnce '=' (uapiLine entry) = some (key, r) := by
      rw [← hr, List.append_assoc]
      exact splitOnce_append (splitOnce_eq_some hs).2
    obtain rfl := Option.some.inj ((hsplit entry hent).symm.trans hk)
    exact (hown l hl _ hent (by simp [hs])).symm
  · exact List.forall_mem_map.mpr fun entry he => by simp [hsplit entry he]
  · intro i e he
    obtain ⟨entry, hent, rfl⟩ := List.mem_map.mp (List.mem_of_getElem? he)
    exact .inr (hall entry hent)

/-- The lines of the printed values alone are an answer. -/
lemma answers_printed : Answers p ((p.entries FieldKind.print).map uapiLine) where
  plain := by
    refine List.forall_mem_map.mpr fun entry he => ?_
    obtain ⟨hk, hv⟩ := entries_plain print_plain entry he
    obtain ⟨hn, hr⟩ := uapiLine_plain hk hv
    exact ⟨hn, (uapiLine_ne hk).1, (uapiLine_ne hk).2, hr⟩
  own := by
    refine List.forall_mem_map.mpr fun e he entry hent hkey => congrArg uapiLine ?_
    rw [splitOnce_uapiLine (entries_plain print_plain e he).1] at hkey
    exact List.inj_on_of_nodup_map (entries_nodup _) he hent (Option.some.inj hkey)
  all := fun _ he => List.mem_map_of_mem he

/-- An engine is accepted that prints a value only as it was sent. -/
lemma canonical_of_accepts
    (h : readAwg3Configuration (answerText ((p.entries FieldKind.print).map uapiLine)) p = true) :
    Canonical p := by
  intro f hf
  have hfields {text : FieldKind → Text → Text} {entry : Text × Text} (he : entry ∈ p.fields.1.map (·.entry text)) :
      entry ∈ p.entries text := List.mem_cons_of_mem _ (List.mem_append_left _ he)
  have hsent : (f.field.uapi, f.value) ∈ p.sent := hfields (List.mem_map_of_mem hf)
  have hprint := hfields (List.mem_map_of_mem (f := (·.entry FieldKind.print)) hf)
  obtain ⟨hkey, -⟩ := sent_plain _ hsent
  rw [readAwg3Configuration, lines_sent, splitInclusive_answer answers_printed] at h
  obtain ⟨i, hi⟩ := List.mem_iff_getElem?.mp (List.mem_map_of_mem (f := uapiLine) hsent)
  -- the line that was sent for the field is one of those that were printed
  rcases mem_of_verifyLines (by simp) h hi with hmark | hmem
  · simp [List.getElem?_replicate] at hmark
  obtain ⟨l, hl, hline⟩ := List.mem_map.mp (List.map_map ▸ hmem)
  rcases List.mem_append.mp hl with hl | hl
  · obtain ⟨hn, -, -, hr⟩ := answers_printed.plain l hl
    obtain ⟨entry, he, rfl⟩ := List.mem_map.mp hl
    have heq : uapiLine entry = _ := (rdropWhile_line hr hn).symm.trans hline
    have hown := answers_printed.own _ hl _ hprint (by rw [heq, splitOnce_uapiLine hkey]; rfl)
    have hpair := (splitOnce_uapiLine (entries_plain print_plain _ hprint).1).symm.trans
      ((congrArg _ (hown.symm.trans heq)).trans (splitOnce_uapiLine hkey))
    exact congrArg Prod.snd (Option.some.inj hpair)
  · obtain rfl | rfl : l = "errno=0".toList ∨ l = [] := by simpa using hl
    · exact absurd hline.symm ((uapiLine_ne hkey).2)
    · exact absurd hline.symm ((uapiLine_ne hkey).1)

/-- Every field is sent as one line, and every engine that stores the numbers by value is accepted
exactly when their texts are canonical. -/
theorem verification_accepts {input : Text} {c : ParsedConfiguration}
    (_ : parseConfiguration readers input = .ok c) (_ : c.awg3 = some p) :
    lines (uapiConfiguration p) = p.sent.map uapiLine ∧
      (Canonical p ↔ ∀ ls, Answers p ls → readAwg3Configuration (answerText ls) p = true) :=
  ⟨lines_sent, fun hcan _ => accepts_canonical hcan,
    fun h => canonical_of_accepts (h _ answers_printed)⟩

/-- What the engine prints for a count of seven, however it was written. -/
def sampleAnswer : List Text :=
  ["header_protection_key=".toList ++ List.replicate 64 '0', "jc=7".toList,
    "content_padding_addition=8-16".toList]

theorem seven_accepted :
    parseConfiguration sampleReaders (sampleText "7") = .ok (sampleConfiguration "7" (by decide)) ∧
      readAwg3Configuration (answerText sampleAnswer) (sampleParameters "7" (by decide)) = true := by
  have h : parseConfiguration sampleReaders (sampleText "7") =
      .ok (sampleConfiguration "7" (by decide)) := by
    decide +kernel
  refine ⟨h, (verification_accepts h rfl).2.mp ?_ _ ⟨?_, ?_, ?_⟩⟩
  · simp only [Canonical]
    decide +kernel
  all_goals decide +kernel

theorem padded_seven_refused :
    parseConfiguration sampleReaders (sampleText "007") =
        .ok (sampleConfiguration "007" (by decide)) ∧
      Answers (sampleParameters "007" (by decide)) sampleAnswer ∧
      readAwg3Configuration (answerText sampleAnswer) (sampleParameters "007" (by decide)) = false := by
  refine ⟨?_, ⟨?_, ?_, ?_⟩, ?_⟩
  all_goals decide +kernel

end Verification

end NelomaiClient.UnixConfiguration
