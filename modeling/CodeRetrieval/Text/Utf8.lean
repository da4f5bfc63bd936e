/-!
# Reading octets as text

Octets are read as UTF-8. Where they are none, each maximal start of a character that is
cut short, and each octet that starts no character, is read as one replacement character
U+FFFD.
-/

namespace CodeRetrieval.Text

/-- What a leading octet announces: how many octets follow, the range of the first of
these, and the bits that the leading octet itself contributes. -/
structure LeadOctet where
  following : Nat
  low : Nat
  high : Nat
  bits : Nat

/-- The announcement of a leading octet. The second octet is limited where a longer than
necessary form, a surrogate or a number beyond U+10FFFF would arise. -/
def leadOctet? (b : Nat) : Option LeadOctet :=
  if b < 0x80 then some ⟨0, 0, 0, b⟩
  else if b < 0xC2 then none
  else if b < 0xE0 then some ⟨1, 0x80, 0xBF, b - 0xC0⟩
  else if b = 0xE0 then some ⟨2, 0xA0, 0xBF, 0⟩
  else if b = 0xED then some ⟨2, 0x80, 0x9F, 0xD⟩
  else if b < 0xF0 then some ⟨2, 0x80, 0xBF, b - 0xE0⟩
  else if b = 0xF0 then some ⟨3, 0x90, 0xBF, 0⟩
  else if b < 0xF4 then some ⟨3, 0x80, 0xBF, b - 0xF0⟩
  else if b = 0xF4 then some ⟨3, 0x80, 0x8F, 4⟩
  else none

/-- Reads `n` octets that continue a character, the first of them between `low` and
`high`. Gives the code point, or nothing where one does not fit, and the octets that
were not read. -/
def readFollowing : Nat → Nat → Nat → Nat → List UInt8 → Option Nat × List UInt8
  | 0, _, _, bits, octets => (some bits, octets)
  | _ + 1, _, _, _, [] => (none, [])
  | n + 1, low, high, bits, b :: octets =>
    if low ≤ b.toNat ∧ b.toNat ≤ high then
      readFollowing n 0x80 0xBF (bits * 64 + (b.toNat - 0x80)) octets
    else (none, b :: octets)

theorem length_readFollowing_le (n low high bits : Nat) (octets : List UInt8) :
    (readFollowing n low high bits octets).2.length ≤ octets.length := by
  induction n generalizing low high bits octets with
  | zero => simp [readFollowing]
  | succ n ih =>
    cases octets with
    | nil => simp [readFollowing]
    | cons b octets =>
      unfold readFollowing
      split
      · exact Nat.le_succ_of_le (ih ..)
      · simp

def decodeOctets : List UInt8 → List Char
  | [] => []
  | b :: octets =>
    match leadOctet? b.toNat with
    | none => '\uFFFD' :: decodeOctets octets
    | some lead =>
      let read := readFollowing lead.following lead.low lead.high lead.bits octets
      (read.1.elim '\uFFFD' Char.ofNat) :: decodeOctets read.2
termination_by octets => octets.length
decreasing_by
  · simp
  · have := length_readFollowing_le lead.following lead.low lead.high lead.bits octets
    simp only [List.length_cons]
    omega

def octets (s : String) : List UInt8 :=
  s.toUTF8.toList

/-- Line ends written as a carriage return, alone or before a line feed, become line
feeds. -/
def unifyLineEnds : List Char → List Char
  | [] => []
  | '\r' :: '\n' :: s => '\n' :: unifyLineEnds s
  | c :: s => (if c = '\r' then '\n' else c) :: unifyLineEnds s

end CodeRetrieval.Text
