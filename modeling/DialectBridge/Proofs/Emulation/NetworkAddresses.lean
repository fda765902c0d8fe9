import DialectBridge.Proofs.Decimal.WholeNumbers
import DialectBridge.Proofs.Emulation.Calling
import DialectBridge.Proofs.Pieces
import DialectBridge.Proofs.Trimming

/-!
# Written network addresses

A number of 32 bits has one written form: its four octets in decimal, without zeros in front and
with points between them. Reading accepts this form and no other text. So a number that is written
is read back, and a text that is read, other than as zero, is written again as it was, without the
blanks around it.
-/

namespace DialectBridge.Address

/-! ## Octets -/

/-- A part is not looked at further if it is too long or has a zero in front. -/
def IsMalformed (part : List Char) : Prop :=
  part.length > 3 ∨ part.length > 1 ∧ part.head? = some '0'

/-- A part that is read is well-formed and digits of a small number. -/
theorem readOctet_eq_some_iff_digits {part : List Char} {octet : Nat} :
    readOctet part = some octet ↔
      ¬IsMalformed part ∧ Decimal.readNatural part = some octet ∧ octet < 256 := by
  have tested : (part.length > 3 || (part.length > 1 && part.head? == some '0')) = true ↔
      IsMalformed part := by
    simp [IsMalformed]
  unfold readOctet
  by_cases malformed : IsMalformed part
  · rw [if_pos (tested.mpr malformed)]
    simp [malformed]
  · rw [if_neg (fun test => malformed (tested.mp test)), Option.filter_eq_some_iff]
    simp [malformed]

/-- An octet is read from its digits, and from no other text. -/
theorem readOctet_eq_some_iff {part : List Char} {octet : Nat} :
    readOctet part = some octet ↔ octet < 256 ∧ part = Nat.toDigits 10 octet := by
  rw [readOctet_eq_some_iff_digits, Decimal.readNatural_eq_some_iff]
  constructor
  · rintro ⟨formed, ⟨nonempty, digital, rfl⟩, small⟩
    have leading : part.head? = some '0' → part.length = 1 := fun zero =>
      Nat.le_antisymm (Nat.le_of_not_lt fun long => formed (.inr ⟨long, zero⟩))
        (List.length_pos_iff.mpr nonempty)
    exact ⟨small, (Decimal.toDigits_ofDigits digital nonempty leading).symm⟩
  · rintro ⟨small, rfl⟩
    have few : (Nat.toDigits 10 octet).length ≤ 3 :=
      (Nat.length_toDigits_le_iff (by decide) (by decide)).mpr (Nat.lt_trans small (by decide))
    refine ⟨?_, ⟨Nat.toDigits_ne_nil, Decimal.digital_toDigits octet,
      Decimal.ofDigits_toDigits octet⟩, small⟩
    rintro (many | ⟨long, zero⟩)
    · exact Nat.not_lt.mpr few many
    · rw [Decimal.length_toDigits_of_leading_zero zero] at long
      exact Nat.lt_irrefl 1 long

/-- The digits of an octet hold no point. -/
theorem point_not_mem_digits (octet : Nat) : '.' ∉ Nat.toDigits 10 octet :=
  fun point => absurd (Decimal.digital_toDigits octet '.' point) (by decide)

/-- The octets of an address make it up. -/
theorem octets_eq_iff {address a b c d : Nat} (first : a < 256) (second : b < 256)
    (third : c < 256) (fourth : d < 256) :
    0x1000000 * a + 0x10000 * b + 256 * c + d = address ↔
      address < 0x100000000 ∧ octets address = [a, b, c, d] := by
  unfold octets
  simp only [List.cons.injEq, and_true]
  omega

/-! ## Addresses -/

/-- The characters of a written address: the digits of its octets, with points between them. -/
theorem toList_write (address : Nat) :
    (write address).toList = ['.'].intercalate ((octets address).map (Nat.toDigits 10)) := by
  have written (octet : Nat) : (Decimal.padded 1 octet).toList = Nat.toDigits 10 octet := by
    have some := @Nat.length_toDigits_pos 10 octet
    rw [Decimal.toList_padded, Nat.sub_eq_zero_of_le some, List.replicate_zero, List.nil_append]
  unfold write
  rw [String.toList_intercalate, List.map_map]
  congr 1
  exact List.map_congr_left fun octet _ => written octet

/-- An address is read from its written form, and from no other text.

Proof: a text is cut at its points into parts, and the parts with points between them are the text.
Each part is the digits of an octet, and the octets are those of the address. -/
theorem read_eq_some_iff {text : List Char} {address : Nat} :
    read text = some address ↔ address < 0x100000000 ∧ text = (write address).toList := by
  have cut : Text.splitAt (· == '.') text = text.splitOn '.' :=
    Text.splitAt_eq_splitOnP _ _
  rw [toList_write]
  constructor
  · intro found
    unfold read at found
    rw [cut] at found
    split at found
    · next a b c d parts =>
      split at found
      · next first second third fourth readFirst readSecond readThird readFourth =>
        obtain ⟨firstSmall, rfl⟩ := readOctet_eq_some_iff.mp readFirst
        obtain ⟨secondSmall, rfl⟩ := readOctet_eq_some_iff.mp readSecond
        obtain ⟨thirdSmall, rfl⟩ := readOctet_eq_some_iff.mp readThird
        obtain ⟨fourthSmall, rfl⟩ := readOctet_eq_some_iff.mp readFourth
        obtain ⟨small, made⟩ := (octets_eq_iff firstSmall secondSmall thirdSmall fourthSmall).mp
          (Option.some.inj found)
        have whole : ['.'].intercalate (text.splitOn '.') = text := List.intercalate_splitOn '.'
        rw [parts] at whole
        exact ⟨small, by rw [made, ← whole]; rfl⟩
      · simp at found
    · simp at found
  · rintro ⟨small, rfl⟩
    have pointless : ∀ part ∈ (octets address).map (Nat.toDigits 10), '.' ∉ part := by
      intro part listed
      obtain ⟨octet, _, rfl⟩ := List.mem_map.mp listed
      exact point_not_mem_digits octet
    have readOf {octet : Nat} (below : octet < 256) :
        readOctet (Nat.toDigits 10 octet) = some octet :=
      readOctet_eq_some_iff.mpr ⟨below, rfl⟩
    have below (n : Nat) : n % 256 < 256 := Nat.mod_lt n (by decide)
    have made := (octets_eq_iff (below (address / 0x1000000)) (below (address / 0x10000))
      (below (address / 256)) (below address)).mpr ⟨small, rfl⟩
    unfold read
    rw [cut, List.splitOn_intercalate '.' pointless (by simp [octets])]
    simp only [octets, List.map_cons, List.map_nil, readOf (below _), made]

/-- A written address has no blanks. -/
theorem trim_write (address : Nat) :
    Text.trim (write address).toList = (write address).toList := by
  refine Text.trim_of_trimmed (Text.trimmed_of_forall fun c member => ?_)
  rw [toList_write] at member
  rcases Text.mem_intercalate member with point | ⟨digits, listed, digit⟩
  · rw [List.mem_singleton.mp point]
    rfl
  · obtain ⟨octet, _, rfl⟩ := List.mem_map.mp listed
    exact Text.isBlank_of_isDigit (Decimal.digital_toDigits octet c digit)

end DialectBridge.Address

namespace DialectBridge.Emulation

/-! ## Calls -/

/-- The written address of a number. -/
theorem evaluate_inet_ntoa (env : Environment) (number : Int64) :
    evaluate env "inet_ntoa" [.integer number] =
      .ok (if 0 ≤ number.toInt ∧ number.toInt < 0x100000000 then
        .text (Address.write number.toInt.toNat) else .null) :=
  evaluate_name env .inetNtoa rfl

/-- The number of an address in a text. -/
theorem evaluate_inet_aton (env : Environment) (text : String) :
    evaluate env "inet_aton" [.text text] =
      .ok (.ofInt ((Address.read (Text.trim text.toList)).getD 0)) :=
  evaluate_name env .inetAton rfl

/-- A text that is no address is read as zero, and every other one as a number that is written as
the text without the blanks around it. -/
theorem read_trim_cases (text : String) :
    ∃ number : Nat, number < 0x100000000 ∧
      (Address.read (Text.trim text.toList)).getD 0 = number ∧
      (number ≠ 0 → Address.write number = Text.trimmed text) := by
  cases read : Address.read (Text.trim text.toList) with
  | none => exact ⟨0, by decide, rfl, fun other => absurd rfl other⟩
  | some number =>
    obtain ⟨small, written⟩ := Address.read_eq_some_iff.mp read
    refine ⟨number, small, rfl, fun _ => ?_⟩
    rw [Text.trimmed, written, String.ofList_toList]

/-- A number of 32 bits is written as an address that is read as the number, and no other number is
written. A text is read as a number, and if this is not zero, it is written as the text without the
blanks around it; so texts that are read as the same number, other than zero, are the same without
the blanks around them. -/
theorem addresses_correspond_to_texts (env : Environment) :
    (∀ number : Int64, 0 ≤ number.toInt → number.toInt < 0x100000000 →
        ∃ text, evaluate env "inet_ntoa" [.integer number] = .ok (.text text) ∧
          evaluate env "inet_aton" [.text text] = .ok (.integer number)) ∧
      (∀ number : Int64, ¬(0 ≤ number.toInt ∧ number.toInt < 0x100000000) →
        evaluate env "inet_ntoa" [.integer number] = .ok .null) ∧
      (∀ text : String, ∃ number : Int64,
        evaluate env "inet_aton" [.text text] = .ok (.integer number) ∧
          (number ≠ 0 →
            evaluate env "inet_ntoa" [.integer number] = .ok (.text (Text.trimmed text)))) ∧
      ∀ (first second : String) (number : Int64), number ≠ 0 →
        evaluate env "inet_aton" [.text first] = .ok (.integer number) →
          evaluate env "inet_aton" [.text second] = .ok (.integer number) →
            Text.trimmed first = Text.trimmed second := by
  have readBack (text : String) : ∃ number : Int64,
      evaluate env "inet_aton" [.text text] = .ok (.integer number) ∧
        (number ≠ 0 →
          evaluate env "inet_ntoa" [.integer number] = .ok (.text (Text.trimmed text))) := by
    obtain ⟨number, small, read, written⟩ := read_trim_cases text
    have stored : (Int64.ofInt number).toInt = number := Int64.toInt_ofInt_of_le (by omega) (by omega)
    refine ⟨Int64.ofInt number, ?_, fun other => ?_⟩
    · rw [evaluate_inet_aton, read]
      rfl
    · have nonzero : number ≠ 0 := by
        rintro rfl
        exact other rfl
      rw [evaluate_inet_ntoa, stored, if_pos (by omega), Int.toNat_natCast, written nonzero]
  refine ⟨?_, ?_, readBack, ?_⟩
  · intro number low high
    have same : ((number.toInt.toNat : Nat) : Int) = number.toInt := by omega
    have read := Address.read_eq_some_iff.mpr
      ⟨show number.toInt.toNat < 0x100000000 by omega, rfl⟩
    refine ⟨Address.write number.toInt.toNat, ?_, ?_⟩
    · rw [evaluate_inet_ntoa, if_pos ⟨low, high⟩]
    · rw [evaluate_inet_aton, Address.trim_write, read, Option.getD_some, Value.ofInt, same,
        Int64.ofInt_toInt]
  · intro number outside
    rw [evaluate_inet_ntoa, if_neg outside]
  · intro first second number nonzero readFirst readSecond
    obtain ⟨firstNumber, firstRead, firstWritten⟩ := readBack first
    obtain ⟨secondNumber, secondRead, secondWritten⟩ := readBack second
    obtain rfl : firstNumber = number := by simpa using firstRead.symm.trans readFirst
    obtain rfl : secondNumber = firstNumber := by simpa using secondRead.symm.trans readSecond
    simpa using (firstWritten nonzero).symm.trans (secondWritten nonzero)

/-- An address with blanks around it is read, its number is written without them, and the first
number with more than 32 bits is not written. -/
theorem address_between_blanks_corresponds :
    evaluate epoch "inet_aton" [.text " 10.0.5.9\t"] = .ok (.integer 167773449) ∧
      evaluate epoch "inet_ntoa" [.integer 167773449] = .ok (.text "10.0.5.9") ∧
      evaluate epoch "inet_ntoa" [.integer 4294967296] = .ok .null := by
  obtain ⟨_, outside, readBack, _⟩ := addresses_correspond_to_texts epoch
  obtain ⟨number, read, written⟩ := readBack " 10.0.5.9\t"
  have denoted : Address.read (Text.trim " 10.0.5.9\t".toList) = some 167773449 := by decide
  have given : evaluate epoch "inet_aton" [.text " 10.0.5.9\t"] = .ok (.integer 167773449) := by
    rw [evaluate_inet_aton, denoted]
    rfl
  obtain rfl : number = 167773449 := by simpa using read.symm.trans given
  have trimmed : Text.trimmed " 10.0.5.9\t" = "10.0.5.9" := by decide
  rw [trimmed] at written
  exact ⟨given, written (by decide), outside 4294967296 (by decide +kernel)⟩

end DialectBridge.Emulation
