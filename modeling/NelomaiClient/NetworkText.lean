import Mathlib.Algebra.GroupWithZero.Nat
import Mathlib.Data.List.DropRight
import Mathlib.Data.Set.Lattice

/-!
# Texts of lines, numbers and networks

A text is its list of characters. Lines, splitting and trimming follow the
string functions of the Rust library; numbers are read with an optional sign
and printed as canonical decimals. A network is an address with a length that
fits it; the notation of IPv6 addresses is a parameter.
-/

namespace NelomaiClient.NetworkText

abbrev Text := List Char

/-- The white space of Unicode. -/
def isWhitespace (c : Char) : Bool :=
  let n := c.toNat
  (9 ≤ n && n ≤ 13) || (0x2000 ≤ n && n ≤ 0x200A) ||
    [0x20, 0x85, 0xA0, 0x1680, 0x2028, 0x2029, 0x202F, 0x205F, 0x3000].contains n

def trim (t : Text) : Text := (t.dropWhile isWhitespace).rdropWhile isWhitespace

def eqIgnoreAsciiCase (s t : Text) : Bool := s.map Char.toLower == t.map Char.toLower

def stripSuffix (c : Char) (t : Text) : Option Text :=
  if t.getLast? = some c then some t.dropLast else none

/-- The lines of a text, each with the line feed that ends it. -/
def splitInclusive : Text → List Text
  | [] => []
  | c :: rest =>
    if c = '\n' then [c] :: splitInclusive rest
    else match splitInclusive rest with
      | [] => [[c]]
      | line :: others => (c :: line) :: others

/-- A carriage return belongs to the end of a line only before a line feed. -/
def lines (t : Text) : List Text :=
  (splitInclusive t).map fun s =>
    match stripSuffix '\n' s with
    | none => s
    | some line => (stripSuffix '\r' line).getD line

def splitOnce (c : Char) : Text → Option (Text × Text)
  | [] => none
  | d :: rest => if d = c then some ([], rest) else (splitOnce c rest).map fun (s, t) => (d :: s, t)

@[simp]
lemma splitOnce_append (h : c ∉ s) : splitOnce c (s ++ c :: t) = some (s, t) := by
  induction s with
  | nil => simp [splitOnce]
  | cons d s ih =>
    obtain ⟨hd, hs⟩ := List.ne_and_not_mem_of_not_mem_cons h
    simp [splitOnce, Ne.symm hd, ih hs]

lemma splitOnce_eq_none (h : c ∉ t) : splitOnce c t = none := by
  induction t with
  | nil => rfl
  | cons d t ih =>
    obtain ⟨hd, ht⟩ := List.ne_and_not_mem_of_not_mem_cons h
    simp [splitOnce, Ne.symm hd, ih ht]

lemma splitOnce_eq_some (h : splitOnce c t = some (s, r)) : t = s ++ c :: r ∧ c ∉ s := by
  induction t generalizing s with
  | nil => cases h
  | cons d t ih =>
    rw [splitOnce] at h
    split at h
    case isTrue hd =>
      cases h
      simp [hd]
    case isFalse hd =>
      obtain ⟨⟨s', r'⟩, hs, he⟩ := Option.map_eq_some_iff.mp h
      cases he
      obtain ⟨ht, hc⟩ := ih hs
      exact ⟨by rw [ht]; rfl, List.not_mem_cons_of_ne_of_not_mem (Ne.symm hd) hc⟩

lemma splitInclusive_append (h : '\n' ∉ s) :
    splitInclusive (s ++ '\n' :: t) = (s ++ ['\n']) :: splitInclusive t := by
  induction s with
  | nil => simp [splitInclusive]
  | cons d s ih =>
    obtain ⟨hd, hs⟩ := List.ne_and_not_mem_of_not_mem_cons h
    simp [splitInclusive, Ne.symm hd, ih hs]

/-- Lines without a line feed and without a carriage return at the end are read back. -/
lemma lines_flatMap (h : ∀ l ∈ ls, '\n' ∉ l ∧ l.getLast? ≠ some '\r') :
    lines (ls.flatMap (· ++ ['\n'])) = ls := by
  induction ls with
  | nil => rfl
  | cons l ls ih =>
    obtain ⟨⟨hn, hr⟩, hls⟩ := List.forall_mem_cons.mp h
    have hl := ih hls
    simp only [lines] at hl ⊢
    rw [List.flatMap_cons, List.append_assoc, List.singleton_append, splitInclusive_append hn,
      List.map_cons, hl]
    simp [stripSuffix, hr]

def decimal (n : ℕ) : Text := Nat.toDigits 10 n

def number (bound : ℕ) (t : Text) : Option ℕ :=
  if t ≠ [] ∧ t.all Char.isDigit ∧ Nat.ofDigitChars 10 t 0 < bound then
    some (Nat.ofDigitChars 10 t 0)
  else none

/-- The parser of the unsigned integers of Rust, which accepts a sign. -/
def parseUnsigned (bound : ℕ) (t : Text) : Option ℕ :=
  number bound (if t.head? = some '+' then t.tail else t)

lemma number_ok (h : number bound t = some n) : n < bound ∧ t.all Char.isDigit := by
  unfold number at h
  split at h
  case isTrue hc => exact ⟨Option.some.inj h ▸ hc.2.2, hc.2.1⟩
  case isFalse => cases h

lemma isDigit_decimal (h : c ∈ decimal n) : c.isDigit :=
  Nat.isDigit_of_mem_toDigits (by decide) (by decide) h

lemma number_decimal (h : n < bound) : number bound (decimal n) = some n := by
  have hv : Nat.ofDigitChars 10 (decimal n) 0 = n :=
    Nat.ofDigitChars_toDigits (by decide) (by decide)
  have hne : decimal n ≠ [] := Nat.toDigits_ne_nil
  have hall : (decimal n).all Char.isDigit := List.all_eq_true.mpr fun _ => isDigit_decimal
  rw [number, hv, if_pos ⟨hne, hall, h⟩]

lemma not_mem_decimal (h : c.isDigit = false) : c ∉ decimal n :=
  fun hc => absurd (isDigit_decimal hc) (by simp [h])

lemma parseUnsigned_decimal (h : n < bound) : parseUnsigned bound (decimal n) = some n := by
  have hs : (decimal n).head? ≠ some '+' := fun hs =>
    not_mem_decimal (by decide) (List.mem_of_mem_head? hs)
  rw [parseUnsigned, if_neg hs, number_decimal h]

section Networks

instance octetNeZero : NeZero 256 := ⟨by decide⟩

inductive IpAddr where
  | v4 (a b c d : Fin 256)
  | v6 (bits : BitVec 128)
  deriving DecidableEq

inductive Family where
  | ipv4
  | ipv6
  deriving DecidableEq

def IpAddr.family : IpAddr → Family
  | .v4 .. => .ipv4
  | .v6 _ => .ipv6

def Family.width : Family → ℕ
  | .ipv4 => 32
  | .ipv6 => 128

def IpAddr.number : IpAddr → ℕ
  | .v4 a b c d => ((a * 256 + b) * 256 + c) * 256 + d
  | .v6 bits => bits.toNat

structure IpNet where
  addr : IpAddr
  prefixLen : ℕ
  fits : prefixLen ≤ addr.family.width
  deriving DecidableEq

/-- The notation of IPv6 addresses. -/
structure Ipv6Text where
  text : BitVec 128 → Text
  parse : Text → Option (BitVec 128)

variable (ipv6 : Ipv6Text)

def IpAddr.text : IpAddr → Text
  | .v4 a b c d => ['.'].intercalate ([a, b, c, d].map (decimal ·.val))
  | .v6 bits => ipv6.text bits

def IpNet.text (net : IpNet) : Text := net.addr.text ipv6 ++ '/' :: decimal net.prefixLen

def readNumber (maxDigits bound : ℕ) (t : Text) : Option ℕ :=
  if t.length ≤ maxDigits then number bound t else none

def parseIpv4 (t : Text) : Option IpAddr :=
  match (t.splitOn '.').map (readNumber 3 256) with
  | [some a, some b, some c, some d] =>
    some (.v4 (Fin.ofNat 256 a) (Fin.ofNat 256 b) (Fin.ofNat 256 c) (Fin.ofNat 256 d))
  | _ => none

def parseIpAddr (t : Text) : Option IpAddr := (parseIpv4 t).or ((ipv6.parse t).map .v6)

/-- `IpAddr::from_str`, which refuses a leading zero in an octet; the reader of networks takes it. -/
def parseStdIpAddr (t : Text) : Option IpAddr :=
  let padded := (t.splitOn '.').any fun octet => octet.head? == some '0' && octet.length != 1
  (if padded then none else parseIpv4 t).or ((ipv6.parse t).map .v6)

def Family.lengthDigits : Family → ℕ
  | .ipv4 => 2
  | .ipv6 => 3

def parseIpNet (t : Text) : Option IpNet := do
  let (address, length) ← splitOnce '/' t
  let addr ← parseIpAddr ipv6 address
  let prefixLen ← readNumber addr.family.lengthDigits (addr.family.width + 1) length
  if h : prefixLen ≤ addr.family.width then some ⟨addr, prefixLen, h⟩ else none

/-- The text of an IPv6 address is read back, and is neither a network nor an IPv4 address. -/
structure Ipv6Text.Reads (bits : BitVec 128) : Prop where
  plain : '/' ∉ ipv6.text bits
  other : parseIpv4 (ipv6.text bits) = none
  back : ipv6.parse (ipv6.text bits) = some bits

lemma length_decimal (v : Fin 256) : (decimal v).length ≤ 3 := by
  revert v
  decide +kernel

lemma readNumber_octet (v : Fin 256) : readNumber 3 256 (decimal v) = some v.val := by
  rw [readNumber, if_pos (length_decimal v), number_decimal v.isLt]

lemma parseIpv4_text : parseIpv4 ((IpAddr.v4 a b c d).text ipv6) = some (.v4 a b c d) := by
  have hs : ((IpAddr.v4 a b c d).text ipv6).splitOn '.' = [a, b, c, d].map (decimal ·.val) :=
    List.splitOn_intercalate '.' (by simp [not_mem_decimal (show '.'.isDigit = false by decide)])
      (by simp)
  simp [parseIpv4, hs, readNumber_octet]

lemma not_mem_ipv4 : '/' ∉ (IpAddr.v4 a b c d).text ipv6 := by
  have hd {n : ℕ} : '/' ∉ decimal n := not_mem_decimal (by decide)
  simp [IpAddr.text, List.intercalate, List.intersperse, hd]

lemma readNumber_length {family : Family} (h : n ≤ family.width) :
    readNumber family.lengthDigits (family.width + 1) (decimal n) = some n := by
  have hl : (decimal n).length ≤ family.lengthDigits := by
    cases family with
    | ipv4 =>
      exact (by decide : ∀ v : Fin 33, (decimal v).length ≤ 2) ⟨n, Nat.lt_succ_of_le h⟩
    | ipv6 => exact length_decimal ⟨n, by simp only [Family.width] at h; omega⟩
  rw [readNumber, if_pos hl, number_decimal (Nat.lt_succ_of_le h)]

lemma parseIpNet_text {net : IpNet} (h : ∀ bits, net.addr = .v6 bits → ipv6.Reads bits) :
    parseIpNet ipv6 (net.text ipv6) = some net := by
  obtain ⟨addr, n, hn⟩ := net
  have ha : '/' ∉ addr.text ipv6 ∧ parseIpAddr ipv6 (addr.text ipv6) = some addr := by
    cases addr with
    | v4 a b c d => exact ⟨not_mem_ipv4 ipv6, by simp [parseIpAddr, parseIpv4_text]⟩
    | v6 bits =>
      have hr := h bits rfl
      exact ⟨hr.plain, by simp [parseIpAddr, IpAddr.text, hr.other, hr.back]⟩
  simp [parseIpNet, IpNet.text, splitOnce_append ha.1, ha.2, readNumber_length hn, hn]

end Networks

end NelomaiClient.NetworkText
