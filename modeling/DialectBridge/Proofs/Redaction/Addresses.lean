import DialectBridge.Redaction.Sensitive
import DialectBridge.Proofs.Redaction.Shapes

/-!
# Mail addresses in logged statements

Where a mail address stands by itself in a statement, the log does not depend on which address
it is: the whole of it is covered, whatever stands around it, so nothing of it is left for the
markers that are put in afterwards or for the cut.
-/

namespace DialectBridge.Redaction

open Shape

/-! ## Classes -/

/-- A letter is in the class of a host. -/
theorem isHostChar_of_isLatinLetter {c : Char} (letter : isLatinLetter c = true) :
    isHostChar c = true := by
  simp [isHostChar, letter]

/-- The point is no letter. -/
theorem ne_point_of_isLatinLetter {c : Char} (letter : isLatinLetter c = true) : c ≠ '.' := by
  rintro rfl
  exact absurd letter (by decide)

/-- A mail address looks only at the at sign and at the characters of a mailbox. -/
theorem mentions_mailAddress {c : Char} (outside : isMailboxChar c = false) (other : c ≠ '@') :
    mailAddress.mentions c = false := by
  simp only [isMailboxChar, Bool.or_eq_false_iff] at outside
  simp [mailAddress, Shape.sequence, exactly, empty, mentions, isMailboxChar, isHostChar, outside,
    other]

/-! ## The parts of an address -/

/-- The end of a host: the last point and the letters behind it. -/
def hostEnding : Shape := sequence [exactly ".", run 2 isLatinLetter]

/-- The host of an address. -/
def host : Shape := followed (run 1 isHostChar) hostEnding

/-- An address is a mailbox, the at sign and a host. -/
theorem mailAddress_eq :
    mailAddress = followed (run 1 isMailboxChar) (followed (exactly "@") host) :=
  rfl

/-- A mailbox, a domain and the letters behind the last point that make up an address. -/
structure AreParts (mailbox domain ending : List Char) : Prop where
  mailbox_nonempty : 1 ≤ mailbox.length
  mailbox_chars : ∀ c ∈ mailbox, isMailboxChar c = true
  domain_nonempty : 1 ≤ domain.length
  domain_chars : ∀ c ∈ domain, isHostChar c = true
  ending_long : 2 ≤ ending.length
  ending_letters : ∀ c ∈ ending, isLatinLetter c = true

/-- What the shape of an address covers from end to end has the parts of one. -/
theorem exists_parts {address : List Char} (whole : mailAddress.covers address = true) :
    ∃ mailbox domain ending, AreParts mailbox domain ending ∧
      address = mailbox ++ '@' :: (domain ++ '.' :: ending) := by
  have covered : [] ∈ mailAddress.remainders address := List.contains_iff_mem.mp whole
  obtain ⟨_, mailboxLeft, signBehind⟩ := mem_remainders_followed.mp covered
  obtain ⟨_, signLeft, hostBehind⟩ := mem_remainders_followed.mp signBehind
  obtain ⟨_, domainLeft, pointBehind⟩ := mem_remainders_followed.mp hostBehind
  obtain ⟨_, pointLeft, endingBehind⟩ := mem_remainders_followed.mp pointBehind
  obtain ⟨_, endingLeft, nothingBehind⟩ := mem_remainders_followed.mp endingBehind
  rw [List.foldr_nil, remainders_empty, List.mem_singleton] at nothingBehind
  obtain ⟨mailbox, rfl, mailboxNonempty, mailboxChars⟩ := exists_taken_of_mem_run mailboxLeft
  obtain rfl := mem_remainders_exactly.mp signLeft
  obtain ⟨domain, rfl, domainNonempty, domainChars⟩ := exists_taken_of_mem_run domainLeft
  obtain rfl := mem_remainders_exactly.mp pointLeft
  obtain ⟨ending, rfl, endingLong, endingLetters⟩ := exists_taken_of_mem_run endingLeft
  refine ⟨mailbox, domain, ending, ⟨mailboxNonempty, mailboxChars, domainNonempty, domainChars,
    endingLong, endingLetters⟩, ?_⟩
  rw [← nothingBehind, List.append_nil]
  rfl

section

variable {mailbox domain ending after : List Char} (parts : AreParts mailbox domain ending)
  (ends : ∀ c ∈ after.head?, isHostChar c = false)
include parts ends

/-- The last point and the letters behind it are taken up to the end of the address. -/
theorem AreParts.preferred_hostEnding :
    hostEnding.preferred ('.' :: (ending ++ after)) = some after := by
  have lettersEnd : ∀ c ∈ after.head?, isLatinLetter c = false := by
    intro c first
    by_contra letter
    rw [Bool.not_eq_false] at letter
    exact absurd (isHostChar_of_isLatinLetter letter) (by simp [ends c first])
  have letters : (followed (run 2 isLatinLetter) empty).preferred (ending ++ after) =
      some after := by
    refine preferred_run_append parts.ending_letters parts.ending_long ?_
    rw [preferred_run_of_stops lettersEnd, preferred_empty]
  rw [← letters]
  exact preferred_exactly_append "." _ (ending ++ after)

/-- Behind the last point a host can stop nowhere in front of another point. -/
theorem AreParts.no_later_point {rest : List Char}
    (left : rest ∈ (run 0 isHostChar).remainders (ending ++ after)) :
    hostEnding.preferred rest = none := by
  refine preferred_exactly_eq_none ?_ _
  rintro ⟨behind, begins⟩
  obtain rfl : '.' :: behind = rest := begins
  obtain ⟨taken, same, _, hostChars⟩ := exists_taken_of_mem_run left
  rcases List.append_eq_append_iff.mp same with ⟨more, rfl, beyond⟩ | ⟨more, rfl, within⟩
  · -- the point would be in the text behind, at its start or after more of the host
    have first : ∃ c ∈ after.head?, isHostChar c = true := by
      cases more with
      | nil => exact ⟨'.', by simp [beyond], by decide⟩
      | cons c others => exact ⟨c, by simp [beyond], hostChars c (by simp)⟩
    obtain ⟨c, first, hostChar⟩ := first
    exact absurd hostChar (by simp [ends c first])
  · -- the point would be among the letters, or the text behind would begin with it
    cases more with
    | nil =>
      obtain rfl : '.' :: behind = after := within
      exact absurd (ends '.' rfl) (by decide)
    | cons c others =>
      obtain ⟨rfl, _⟩ := List.cons.inj within
      exact ne_point_of_isLatinLetter (parts.ending_letters '.' (by simp)) rfl

/-- Of an address and a text that no host goes on with, the shape prefers to leave just this
text: the mailbox ends at the at sign, and the host takes all up to the text and gives back no
more than what is behind the last point. -/
theorem AreParts.preferred_mailAddress :
    mailAddress.preferred (mailbox ++ '@' :: (domain ++ '.' :: ending) ++ after) =
      some after := by
  have hostLeft : host.preferred (domain ++ '.' :: (ending ++ after)) = some after := by
    refine preferred_run_append parts.domain_chars parts.domain_nonempty ?_
    rw [preferred_run_of_none (by decide) fun rest left => parts.no_later_point ends left]
    exact parts.preferred_hostEnding ends
  have stops : ∀ c ∈ ('@' :: (domain ++ '.' :: (ending ++ after))).head?,
      isMailboxChar c = false := by
    intro c first
    obtain rfl : '@' = c := Option.some.inj first
    decide
  rw [mailAddress_eq, List.append_assoc, List.cons_append, List.append_assoc, List.cons_append]
  refine preferred_run_append parts.mailbox_chars parts.mailbox_nonempty ?_
  rw [preferred_run_of_stops stops, ← hostLeft]
  exact preferred_exactly_append "@" host (domain ++ '.' :: (ending ++ after))

end

/-! ## Hiding an address -/

/-- Behind a text that ends in a character of no address, the text that follows has its
addresses replaced by itself. -/
theorem replace_mailAddress_append {before : List Char}
    (apart : ∀ c ∈ before.getLast?, isMailboxChar c = false ∧ c ≠ '@') (marker : String)
    (text : List Char) : mailAddress.replace marker (before ++ text) =
      mailAddress.replace marker before ++ mailAddress.replace marker text := by
  rcases List.eq_nil_or_concat before with rfl | ⟨front, c, rfl⟩
  · rfl
  · obtain ⟨outside, other⟩ := apart c (by simp)
    have unmentioned : mailAddress.mentions c = false := mentions_mailAddress outside other
    have split (back : List Char) : mailAddress.replace marker (front ++ c :: back) =
        mailAddress.replace marker front ++ c :: mailAddress.replace marker back :=
      replace_append_cons unmentioned marker front back
    rw [List.concat_eq_append, List.append_assoc, List.singleton_append, split, split,
      List.append_assoc]
    rfl

/-- An address that stands by itself is replaced by the marker, and what stands around it is
replaced as it is without it. -/
theorem replace_around_mailAddress {before address after : List Char}
    (apart : ∀ c ∈ before.getLast?, isMailboxChar c = false ∧ c ≠ '@')
    (whole : mailAddress.covers address = true)
    (ends : ∀ c ∈ after.head?, isHostChar c = false) (marker : String) :
    mailAddress.replace marker (before ++ address ++ after) =
      mailAddress.replace marker before ++ marker.toList ++ mailAddress.replace marker after := by
  obtain ⟨mailbox, domain, ending, parts, rfl⟩ := exists_parts whole
  rw [List.append_assoc, replace_mailAddress_append apart,
    replace_of_preferred marker (by simp) (parts.preferred_mailAddress ends), List.append_assoc]

/-- An address that stands by itself leaves no trace in the log: with any other address in its
place the statement is logged as the same text. Only what may stand next to it matters: no
character of an address and no at sign in front, and no character of a host behind. -/
theorem logged_hides_address {before after first second : List Char}
    (apart : ∀ c ∈ before.getLast?, isMailboxChar c = false ∧ c ≠ '@')
    (ends : ∀ c ∈ after.head?, isHostChar c = false)
    (oneAddress : mailAddress.covers first = true)
    (otherAddress : mailAddress.covers second = true) :
    logged (before ++ first ++ after) = logged (before ++ second ++ after) := by
  have sameAddresses : mailAddress.replace "[EMAIL]" (before ++ first ++ after) =
      mailAddress.replace "[EMAIL]" (before ++ second ++ after) := by
    rw [replace_around_mailAddress apart oneAddress ends,
      replace_around_mailAddress apart otherAddress ends]
  unfold logged hidden
  rw [sameAddresses]

/-- A short address and a long one with several points, the long s and the Kelvin sign, between
a telephone number and a point that is no part of the host. -/
theorem short_and_long_address_hidden :
    (∀ c ∈ "WHERE phone = '555-123-4567' AND mail = '".toList.getLast?,
      isMailboxChar c = false ∧ c ≠ '@') ∧
    (∀ c ∈ "' LIMIT 1".toList.head?, isHostChar c = false) ∧
    mailAddress.covers "a@b.cc".toList = true ∧
    mailAddress.covers "Mr.Key+%_-9@Mail.first-host.1.ſK".toList = true ∧
    logged ("WHERE phone = '555-123-4567' AND mail = '".toList ++ "a@b.cc".toList ++
        "' LIMIT 1".toList) =
      logged ("WHERE phone = '555-123-4567' AND mail = '".toList ++
        "Mr.Key+%_-9@Mail.first-host.1.ſK".toList ++ "' LIMIT 1".toList) := by
  have apart : ∀ c ∈ "WHERE phone = '555-123-4567' AND mail = '".toList.getLast?,
      isMailboxChar c = false ∧ c ≠ '@' := by
    rintro c ⟨rfl⟩
    decide
  have ends : ∀ c ∈ "' LIMIT 1".toList.head?, isHostChar c = false := by
    rintro c ⟨rfl⟩
    decide
  have short : mailAddress.covers "a@b.cc".toList = true := by decide +kernel
  have long : mailAddress.covers "Mr.Key+%_-9@Mail.first-host.1.ſK".toList = true := by
    decide +kernel
  exact ⟨apart, ends, short, long, logged_hides_address apart ends short long⟩

end DialectBridge.Redaction
