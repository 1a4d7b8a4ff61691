import Retouch.Identifier
import Retouch.Proofs.Trivia

/-!
# Texts that are read as an identifier

A text is read as an identifier if it is one, with trivia and perhaps a byte order mark in front of
it and trivia behind it. The identifier is the whole text if and only if the text has no white
space, no slash and no byte order mark.
-/

namespace Retouch.Token

/-- A name without `r#`. -/
inductive PlainName : Text → Prop
  | mk {c : Char} {rest : Text} : startsName c = true → (∀ d ∈ rest, continuesName d = true) →
    PlainName (c :: rest)

/-- A name with its `r#`, if it has one. -/
inductive IsName : Text → Prop
  | plain {name : Text} : PlainName name → IsName name
  | raw {name : Text} : PlainName name → String.ofList name ∉ neverRaw →
    IsName ('r' :: '#' :: name)

def IsIdentifier (spelling : Text) : Prop :=
  IsName spelling ∧ String.ofList spelling ∉ keywords

/-- Whether no character is in both lists of ranges. -/
def apart (ranges others : List (Nat × Nat)) : Bool :=
  ranges.all fun r => others.all fun s => r.2 < s.1 || s.2 < r.1

theorem inRanges_eq_false {ranges others : List (Nat × Nat)} (h : apart ranges others = true)
    {c : Char} (hc : Unicode.inRanges others c = true) : Unicode.inRanges ranges c = false := by
  rw [Bool.eq_false_iff]
  intro hboth
  obtain ⟨r, hr, hin⟩ := List.any_eq_true.1 hboth
  obtain ⟨s, hs, hother⟩ := List.any_eq_true.1 hc
  have hapart := List.all_eq_true.1 (List.all_eq_true.1 h r hr) s hs
  simp only [Bool.and_eq_true, Bool.or_eq_true, decide_eq_true_eq] at hin hother hapart
  omega

theorem continuesName_of_startsName {c : Char} (h : startsName c = true) :
    continuesName c = true := by
  simp only [startsName, Bool.or_eq_true, beq_iff_eq] at h
  rcases h with rfl | h
  · decide
  · unfold Unicode.isXidStart at h
    unfold continuesName Unicode.isXidContinue
    split
    · simp_all [Char.isAlphanum]
    · simp_all

theorem continuesName_of_isWhiteSpace {c : Char} (h : Unicode.isWhiteSpace c = true) :
    continuesName c = false := by
  unfold Unicode.isWhiteSpace at h
  unfold continuesName Unicode.isXidContinue
  split
  · next hascii =>
    have hcodes : ∀ n ∈ List.range 33,
        ((Char.ofNat n).isAlphanum || Char.ofNat n == '_') = false := by decide
    have hcode : c.toNat < 33 := by
      simp only [Unicode.inRanges, List.any_cons, List.any_nil, Bool.or_eq_true, Bool.and_eq_true,
        decide_eq_true_eq, Bool.or_false] at h
      omega
    have hno := hcodes c.toNat (List.mem_range.2 hcode)
    rwa [Char.ofNat_toNat] at hno
  · rw [inRanges_eq_false (by decide +kernel) h, inRanges_eq_false (by decide +kernel) h]
    rfl

theorem continuesName_of_isSpace {c : Char} (h : isSpace c = true) : continuesName c = false := by
  simp only [isSpace, Bool.or_eq_true, beq_iff_eq] at h
  rcases h with (h | rfl) | rfl
  · exact continuesName_of_isWhiteSpace h
  · decide +kernel
  · decide +kernel

/-- Characters that neither open a string or a character nor make a name raw. -/
def Clear (c : Char) : Prop := c ≠ '"' ∧ c ≠ '#' ∧ c ≠ '\''

theorem clear_of_continuesName {c : Char} (h : continuesName c = true) : Clear c := by
  refine ⟨?_, ?_, ?_⟩
  all_goals
    rintro rfl
    revert h
    decide

theorem clear_of_isSpace {c : Char} (h : isSpace c = true) : Clear c := by
  refine ⟨?_, ?_, ?_⟩
  all_goals
    rintro rfl
    revert h
    decide

theorem rawString?_eq_none {text : Text} (flavour : Flavour) (h : ∀ d ∈ text.head?, Clear d) :
    rawString? flavour text = none := by
  cases text with
  | nil => rfl
  | cons d text =>
    obtain ⟨hquote, hhash, -⟩ := h d rfl
    have hbeq : (d == '#') = false := by simpa using hhash
    simp [rawString?, hbeq, hquote]

theorem rawString?_hash_eq_none {text : Text} (flavour : Flavour)
    (h : ∀ d ∈ text.head?, Clear d) : rawString? flavour ('#' :: text) = none := by
  cases text with
  | nil => rfl
  | cons d text =>
    obtain ⟨hquote, hhash, -⟩ := h d rfl
    have hbeq : (d == '#') = false := by simpa using hhash
    simp [rawString?, hbeq, hquote]

theorem isDigit_of_startsName {c : Char} (h : startsName c = true) : c.isDigit = false := by
  have hcodes : ∀ n ∈ List.range' 48 10, startsName (Char.ofNat n) = false := by decide
  rw [Bool.eq_false_iff]
  intro hdigit
  have hcode : c.toNat ∈ List.range' 48 10 := by
    simp only [Char.isDigit, ge_iff_le, Bool.and_eq_true, decide_eq_true_eq,
      UInt32.le_iff_toNat_le] at hdigit
    exact List.mem_range'_1.2 ⟨hdigit.1, Nat.lt_succ_of_le hdigit.2⟩
  have hno := hcodes _ hcode
  rw [Char.ofNat_toNat, h] at hno
  cases hno

theorem string?_eq_none {c : Char} {text : Text} (hc : startsName c = true)
    (hnext : ∀ d ∈ text.head?, Clear d)
    (hafter : ∀ rest, text = 'r' :: rest → ∀ d ∈ rest.head?, Clear d) :
    string? (c :: text) = none := by
  unfold string?
  split
  · next heq =>
    obtain ⟨rfl, -⟩ := List.cons.inj heq
    exact absurd hc (by decide)
  · next heq =>
    obtain ⟨rfl, rfl⟩ := List.cons.inj heq
    exact rawString?_eq_none _ hnext
  · next heq =>
    obtain ⟨rfl, rfl⟩ := List.cons.inj heq
    exact absurd rfl (hnext _ rfl).1
  · next heq =>
    obtain ⟨rfl, rfl⟩ := List.cons.inj heq
    exact rawString?_eq_none _ (hafter _ rfl)
  · next heq =>
    obtain ⟨rfl, rfl⟩ := List.cons.inj heq
    exact absurd rfl (hnext _ rfl).1
  · next heq =>
    obtain ⟨rfl, rfl⟩ := List.cons.inj heq
    exact rawString?_eq_none _ (hafter _ rfl)
  · rfl

theorem character?_eq_none {c : Char} {text : Text} (hc : startsName c = true)
    (hnext : ∀ d ∈ text.head?, d ≠ '\'') : character? (c :: text) = none := by
  unfold character?
  split
  · next heq =>
    obtain ⟨rfl, rfl⟩ := List.cons.inj heq
    exact absurd rfl (hnext _ rfl)
  · next heq =>
    obtain ⟨rfl, -⟩ := List.cons.inj heq
    exact absurd hc (by decide)
  · rfl

theorem whole?_eq_none {c : Char} {text : Text} (hc : startsName c = true) :
    whole? (c :: text) = none := by
  have hdigit := isDigit_of_startsName hc
  have hzero : c ≠ '0' := by
    rintro rfl
    exact absurd hc (by decide)
  have hvalue : ¬digitValue c < 10 := by
    simp only [digitValue, hdigit, Bool.false_eq_true, if_false]
    split <;> omega
  have hdigits : afterDigits? 10 (c :: text) true = none := by
    simp [afterDigits?, hdigit, hvalue]
  unfold whole?
  dsimp only
  split
  · next heq => exact absurd (List.cons.inj heq).1 hzero
  · next heq => exact absurd (List.cons.inj heq).1 hzero
  · next heq => exact absurd (List.cons.inj heq).1 hzero
  · rw [hdigits]
    rfl

theorem literal?_eq_none {c : Char} {text : Text} (hc : startsName c = true)
    (hstring : string? (c :: text) = none) (hnext : ∀ d ∈ text.head?, d ≠ '\'') :
    literal? (c :: text) = none := by
  have hfractional : fractional? (c :: text) = none := by
    simp [fractional?, isDigit_of_startsName hc]
  rw [literal?, hstring, character?_eq_none hc hnext, hfractional, whole?_eq_none hc]
  rfl

theorem ne_of_startsName {c d : Char} (hc : startsName c = true) (hd : startsName d = false) :
    c ≠ d := by
  rintro rfl
  rw [hc] at hd
  cases hd

theorem docComment?_eq_none {c : Char} {text : Text} (h : c ≠ '/') :
    docComment? (c :: text) = none := by
  unfold docComment?
  split <;> simp_all

theorem bracket?_eq_none {c : Char} {text : Text} (hc : startsName c = true) :
    bracket? (c :: text) = none := by
  unfold bracket?
  split <;>
    first
    | rfl
    | next heq => exact absurd (List.cons.inj heq).1 (ne_of_startsName hc (by decide))

theorem punctuation?_eq_none {c : Char} {text : Text} (hc : startsName c = true) :
    punctuation? (c :: text) = none := by
  have hslash : c ≠ '/' := ne_of_startsName hc (by decide)
  have hcomment : startsComment (c :: text) = false := by
    unfold startsComment
    split <;> simp_all
  have hquote : c ≠ '\'' := ne_of_startsName hc (by decide)
  have hmarks : (marks.all fun d => !startsName d) = true := by decide +kernel
  have hmark : marks.contains c = false := by
    rw [Bool.eq_false_iff]
    intro hmem
    have hno := List.all_eq_true.1 hmarks c (List.contains_iff_mem.1 hmem)
    rw [hc] at hno
    cases hno
  rw [punctuation?, hcomment, if_neg (by simp), if_neg hquote, hmark, if_neg (by simp)]

/-- A name is the next token unless a string or a character starts like it. -/
theorem next?_eq_nameToken? {c : Char} {text : Text} (hc : startsName c = true)
    (hstring : string? (c :: text) = none) (hnext : ∀ d ∈ text.head?, d ≠ '\'') :
    next? (c :: text) = nameToken? (c :: text) := by
  rw [next?, docComment?_eq_none (ne_of_startsName hc (by decide)), bracket?_eq_none hc,
    literal?_eq_none hc hstring hnext, punctuation?_eq_none hc]
  rfl

theorem bracket?_ne_name {text spelling rest : Text} :
    bracket? text ≠ some (.name spelling, rest) := by
  unfold bracket?
  split <;> simp

theorem punctuation?_ne_name {text spelling rest : Text} :
    punctuation? text ≠ some (.name spelling, rest) := by
  unfold punctuation?
  grind

theorem name?_of_next? {text spelling rest : Text} (h : next? text = some (.name spelling, rest)) :
    name? text = some (spelling, rest) := by
  simp only [next?, Option.or_eq_some_iff, Option.map_eq_some_iff, Prod.mk.injEq, reduceCtorEq,
    false_and, and_false, exists_false, false_or, bracket?_ne_name, punctuation?_ne_name] at h
  obtain ⟨-, -, -, -, h⟩ := h
  rw [nameToken?] at h
  split at h
  · cases h
  · obtain ⟨⟨_, _⟩, hname, heq⟩ := Option.map_eq_some_iff.1 h
    obtain ⟨hspelling, rfl⟩ := Prod.mk.inj heq
    obtain rfl := Token.name.inj hspelling
    exact hname

/-- Where a name ends for sure. -/
def Boundary (rest : Text) : Prop := ∀ d ∈ rest.head?, continuesName d = false ∧ Clear d

theorem plainName?_append {name rest : Text} (h : PlainName name) (hrest : Boundary rest) :
    plainName? (name ++ rest) = some (name, rest) := by
  obtain ⟨hc, hname⟩ := h
  next c name =>
  have hstop : rest.takeWhile continuesName = [] ∧ rest.dropWhile continuesName = rest := by
    cases rest with
    | nil => exact ⟨rfl, rfl⟩
    | cons d rest => simp [(hrest d rfl).1]
  rw [List.cons_append, plainName?, if_pos hc, List.takeWhile_append_of_pos hname,
    List.dropWhile_append_of_pos hname, hstop.1, hstop.2, List.append_nil]

theorem plainName_of_plainName? {text name rest : Text} (h : plainName? text = some (name, rest)) :
    PlainName name ∧ text = name ++ rest := by
  cases text with
  | nil => cases h
  | cons c text =>
    obtain ⟨hc, heq⟩ := Option.ite_none_right_eq_some.1 h
    obtain ⟨rfl, rfl⟩ := Prod.mk.inj (Option.some.inj heq)
    refine ⟨.mk hc fun d hd => List.mem_takeWhile_imp hd, ?_⟩
    rw [List.cons_append, List.takeWhile_append_dropWhile]

theorem isName_of_name? {text spelling rest : Text} (h : name? text = some (spelling, rest)) :
    IsName spelling ∧ text = spelling ++ rest := by
  unfold name? at h
  split at h
  · split at h
    · next name after hname =>
      split at h
      · cases h
      · next hnever =>
        obtain ⟨rfl, rfl⟩ := Prod.mk.inj (Option.some.inj h)
        obtain ⟨hplain, rfl⟩ := plainName_of_plainName? hname
        exact ⟨.raw hplain (by simpa using hnever), rfl⟩
    · cases h
  · obtain ⟨hplain, rfl⟩ := plainName_of_plainName? h
    exact ⟨.plain hplain, rfl⟩

theorem quotedStarts_any_eq_false {c : Char} {text : Text} (hnext : ∀ d ∈ text.head?, Clear d)
    (hafter : ∀ rest, text = 'r' :: rest → ∀ d ∈ rest.head?, Clear d) :
    (quotedStarts.any fun start => start.toList.isPrefixOf (c :: text)) = false := by
  match text with
  | [] => simp [quotedStarts, List.isPrefixOf]
  | [d] =>
    obtain ⟨hquote, hhash, happ⟩ := hnext d rfl
    simp [quotedStarts, List.isPrefixOf, hquote.symm, happ.symm]
  | d :: e :: text =>
    obtain ⟨hquote, hhash, happ⟩ := hnext d rfl
    by_cases hr : d = 'r'
    · obtain ⟨hquote', hhash', -⟩ := hafter _ (by rw [hr]) e rfl
      simp [quotedStarts, List.isPrefixOf, hquote.symm, hhash.symm, happ.symm, hquote'.symm,
        hhash'.symm]
    · simp [quotedStarts, List.isPrefixOf, hquote.symm, hhash.symm, happ.symm, Ne.symm hr]

theorem PlainName.head_clear {name : Text} (h : PlainName name) (rest : Text) :
    ∀ d ∈ (name ++ rest).head?, Clear d := by
  obtain ⟨hc, -⟩ := h
  rintro d ⟨⟩
  exact clear_of_continuesName (continuesName_of_startsName hc)

theorem head?_clear {name rest : Text} (hname : ∀ d ∈ name, continuesName d = true)
    (hrest : Boundary rest) : ∀ d ∈ (name ++ rest).head?, Clear d := by
  intro d hd
  cases name with
  | nil => exact (hrest d hd).2
  | cons e name =>
    obtain rfl := Option.some.inj hd
    exact clear_of_continuesName (hname e List.mem_cons_self)

theorem next?_plainName {name rest : Text} (h : PlainName name) (hrest : Boundary rest) :
    next? (name ++ rest) = some (.name name, rest) := by
  have hplain := plainName?_append h hrest
  obtain ⟨hc, hname⟩ := h
  next c name =>
  have hnext : ∀ d ∈ (name ++ rest).head?, Clear d := head?_clear hname hrest
  have hafter : ∀ more, name ++ rest = 'r' :: more → ∀ d ∈ more.head?, Clear d := by
    intro more hmore
    cases name with
    | nil =>
      have hr := (hrest 'r' (by rw [← List.nil_append rest, hmore]; rfl)).1
      exact absurd hr (by decide)
    | cons e name =>
      obtain ⟨-, rfl⟩ := List.cons.inj hmore
      exact head?_clear (fun d hd => hname d (List.mem_cons_of_mem e hd)) hrest
  have hname? : name? (c :: (name ++ rest)) = plainName? (c :: (name ++ rest)) := by
    unfold name?
    split
    · next heq =>
      have htail := (List.cons.inj heq).2
      exact absurd rfl (hnext '#' (by rw [htail]; rfl)).2.1
    · rfl
  rw [List.cons_append] at hplain ⊢
  rw [next?_eq_nameToken? hc (string?_eq_none hc hnext hafter) fun d hd => (hnext d hd).2.2,
    nameToken?, quotedStarts_any_eq_false hnext hafter, hname?, hplain]
  rfl

theorem next?_rawName {name rest : Text} (h : PlainName name)
    (hnever : String.ofList name ∉ neverRaw) (hrest : Boundary rest) :
    next? ('r' :: '#' :: (name ++ rest)) = some (.name ('r' :: '#' :: name), rest) := by
  have hclear := h.head_clear rest
  have hstring : string? ('r' :: '#' :: (name ++ rest)) = none :=
    rawString?_hash_eq_none .text hclear
  have hstarts : (quotedStarts.any fun start =>
      start.toList.isPrefixOf ('r' :: '#' :: (name ++ rest))) = false := by
    obtain ⟨hc, -⟩ := h
    obtain ⟨hquote, hhash, -⟩ := hclear _ rfl
    simp [quotedStarts, List.isPrefixOf, hquote.symm, hhash.symm]
  rw [next?_eq_nameToken? (by decide) hstring (by simp), nameToken?, hstarts]
  simp [name?, plainName?_append h hrest, hnever]

theorem IsName.next? {spelling rest : Text} (h : IsName spelling) (hrest : Boundary rest) :
    next? (spelling ++ rest) = some (.name spelling, rest) := by
  cases h with
  | plain hname => exact next?_plainName hname hrest
  | raw hname hnever => exact next?_rawName hname hnever hrest

theorem Trivia.head {text : Text} (h : Trivia text) :
    ∀ d ∈ text.head?, isSpace d = true ∨ d = '/' := by
  cases h with
  | nil => simp
  | space hc _ => simp [hc]
  | line _ _ _ => simp
  | block _ _ _ => simp

theorem LastTrivia.head {text : Text} (h : LastTrivia text) :
    ∀ d ∈ text.head?, isSpace d = true ∨ d = '/' := by
  rcases h with htrivia | ⟨front, comment, rfl, hfront, hcomment⟩
  · exact htrivia.head
  · intro d hd
    cases front with
    | nil =>
      obtain ⟨-, -⟩ := hcomment
      exact .inr (Option.some.inj hd).symm
    | cons e front => exact hfront.head d hd

theorem LastTrivia.boundary {text : Text} (h : LastTrivia text) : Boundary text := by
  intro d hd
  rcases h.head d hd with hspace | rfl
  · exact ⟨continuesName_of_isSpace hspace, clear_of_isSpace hspace⟩
  · exact ⟨by decide, by decide, by decide, by decide⟩

/-- Characters that are no white space, start no comment and are no byte order mark. -/
def Bare (c : Char) : Prop := isSpace c = false ∧ c ≠ '/' ∧ c ≠ '\ufeff'

theorem bare_of_continuesName {c : Char} (h : continuesName c = true) : Bare c := by
  refine ⟨?_, ?_, ?_⟩
  · rw [Bool.eq_false_iff]
    intro hspace
    rw [continuesName_of_isSpace hspace] at h
    cases h
  · rintro rfl
    exact absurd h (by decide)
  · rintro rfl
    exact absurd h (by decide +kernel)

theorem PlainName.bare {name : Text} (h : PlainName name) : ∀ c ∈ name, Bare c := by
  obtain ⟨hc, hname⟩ := h
  exact List.forall_mem_cons.2 ⟨bare_of_continuesName (continuesName_of_startsName hc),
    fun d hd => bare_of_continuesName (hname d hd)⟩

theorem IsName.bare {spelling : Text} (h : IsName spelling) : ∀ c ∈ spelling, Bare c := by
  cases h with
  | plain hname => exact hname.bare
  | raw hname _ =>
    refine List.forall_mem_cons.2 ⟨bare_of_continuesName (by decide), ?_⟩
    exact List.forall_mem_cons.2 ⟨⟨by decide, by decide, by decide⟩, hname.bare⟩

theorem IsName.exists_cons {spelling : Text} (h : IsName spelling) :
    ∃ c rest, spelling = c :: rest := by
  cases h with
  | plain hname =>
    obtain ⟨-, -⟩ := hname
    exact ⟨_, _, rfl⟩
  | raw _ _ => exact ⟨_, _, rfl⟩

theorem readAll_of_nil {text : Text} (fuel : Nat) (h : afterTrivia text = []) :
    readAll (fuel + 1) text = some [] := by
  unfold afterTrivia at h
  rw [readAll, h]

theorem readAll_of_ne_nil {text : Text} (fuel : Nat) (h : afterTrivia text ≠ []) :
    readAll (fuel + 1) text =
      (next? (afterTrivia text)).bind fun (token, rest) =>
        (readAll fuel rest).map (token :: ·) := by
  unfold afterTrivia at h ⊢
  rw [readAll]
  split
  · contradiction
  · cases next? (skipTrivia (text.length + 1) text) <;> rfl

theorem readAll_eq_nil_iff {fuel : Nat} {text : Text} :
    readAll (fuel + 1) text = some [] ↔ LastTrivia text := by
  rw [← afterTrivia_eq_nil_iff]
  constructor
  · intro h
    by_contra hne
    rw [readAll_of_ne_nil fuel hne] at h
    obtain ⟨_, _, hread⟩ := Option.bind_eq_some_iff.1 h
    obtain ⟨_, _, heq⟩ := Option.map_eq_some_iff.1 hread
    cases heq
  · exact readAll_of_nil fuel

/-- The one token of a text is a name if the text is the name with trivia around it. -/
theorem readAll_eq_name_iff {text spelling : Text} :
    readAll (text.length + 1) text = some [.name spelling] ↔
      IsName spelling ∧ ∃ before after, text = before ++ (spelling ++ after) ∧ Trivia before ∧
        LastTrivia after := by
  constructor
  · intro h
    have hne : afterTrivia text ≠ [] := by
      intro hnil
      rw [readAll_of_nil _ hnil] at h
      cases h
    rw [readAll_of_ne_nil _ hne] at h
    obtain ⟨⟨token, rest⟩, hnext, hread⟩ := Option.bind_eq_some_iff.1 h
    obtain ⟨tokens, htokens, heq⟩ := Option.map_eq_some_iff.1 hread
    obtain ⟨rfl, rfl⟩ := List.cons.inj heq
    obtain ⟨hname, hafter⟩ := isName_of_name? (name?_of_next? hnext)
    obtain ⟨before, htext, hbefore⟩ := eq_append_of_afterTrivia rfl hne
    rw [hafter] at htext
    refine ⟨hname, before, rest, htext, hbefore, ?_⟩
    obtain ⟨fuel, hfuel⟩ : ∃ fuel, text.length = fuel + 1 := by
      apply Nat.exists_eq_add_one.2
      rw [List.length_pos_iff]
      rintro rfl
      exact hne rfl
    rw [hfuel] at htokens
    exact readAll_eq_nil_iff.1 htokens
  · rintro ⟨hname, before, after, rfl, hbefore, hafter⟩
    obtain ⟨c, rest, rfl⟩ := hname.exists_cons
    obtain ⟨hspace, hslash, -⟩ := hname.bare c List.mem_cons_self
    have hskip : afterTrivia (before ++ (c :: rest ++ after)) = c :: rest ++ after :=
      (hbefore.afterTrivia_append _).trans (afterTrivia_eq_self hspace hslash _)
    obtain ⟨fuel, hfuel⟩ : ∃ fuel, (before ++ (c :: rest ++ after)).length = fuel + 1 :=
      ⟨before.length + (rest.length + after.length), by simp; omega⟩
    have hlast : readAll (fuel + 1) after = some [] := readAll_eq_nil_iff.2 hafter
    rw [readAll_of_ne_nil _ (by rw [hskip]; exact List.cons_ne_nil _ _), hskip,
      hname.next? hafter.boundary, hfuel, Option.bind_some]
    exact congrArg (Option.map (Token.name (c :: rest) :: ·)) hlast

/-- A byte order mark or nothing. -/
def IsMark (mark : Text) : Prop := mark = [] ∨ mark = ['\ufeff']

/-- The spelling with trivia around it, and perhaps a byte order mark in front. -/
def Padded (text spelling : Text) : Prop :=
  ∃ mark before after, text = mark ++ (before ++ (spelling ++ after)) ∧ IsMark mark ∧
    Trivia before ∧ LastTrivia after

theorem head?_ne_mark {before spelling : Text} (hbefore : Trivia before)
    (hname : IsName spelling) (after : Text) :
    (before ++ (spelling ++ after)).head? ≠ some '\ufeff' := by
  intro hhead
  cases before with
  | nil =>
    obtain ⟨c, rest, rfl⟩ := hname.exists_cons
    exact (hname.bare c List.mem_cons_self).2.2 (Option.some.inj hhead)
  | cons c before =>
    obtain rfl := Option.some.inj hhead
    rcases hbefore.head _ rfl with hspace | hslash
    · exact absurd hspace (by decide)
    · exact absurd hslash (by decide)

theorem tokens?_eq_name_iff {text spelling : Text} :
    tokens? text = some [.name spelling] ↔ IsName spelling ∧ Padded text spelling := by
  simp only [tokens?, Option.filter_eq_some_iff, balanced, List.isEmpty_nil, and_true,
    readAll_eq_name_iff]
  refine and_congr_right fun hname => ?_
  by_cases hmark : text.head? = some '\ufeff'
  · obtain ⟨rest, rfl⟩ := List.head?_eq_some_iff.1 hmark
    rw [if_pos hmark, List.tail_cons]
    constructor
    · rintro ⟨before, after, rfl, hbefore, hafter⟩
      exact ⟨['\ufeff'], before, after, rfl, .inr rfl, hbefore, hafter⟩
    · rintro ⟨mark, before, after, htext, rfl | rfl, hbefore, hafter⟩
      · rw [htext] at hmark
        exact absurd hmark (head?_ne_mark hbefore hname after)
      · exact ⟨before, after, (List.cons.inj htext).2, hbefore, hafter⟩
  · rw [if_neg hmark]
    constructor
    · rintro ⟨before, after, rfl, hbefore, hafter⟩
      exact ⟨[], before, after, rfl, .inl rfl, hbefore, hafter⟩
    · rintro ⟨mark, before, after, rfl, rfl | rfl, hbefore, hafter⟩
      · exact ⟨before, after, rfl, hbefore, hafter⟩
      · exact absurd rfl hmark

/-- Nothing stands around the spelling if no character could. -/
theorem Padded.eq_iff {text spelling : Text} (h : Padded text spelling) (hname : IsName spelling) :
    text = spelling ↔ ∀ c ∈ text, Bare c := by
  constructor
  · rintro rfl
    exact hname.bare
  · intro hbare
    obtain ⟨mark, before, after, rfl, hmark, hbefore, hafter⟩ := h
    simp only [List.forall_mem_append] at hbare
    obtain ⟨hmarks, hbefores, -, hafters⟩ := hbare
    have hnil : ∀ piece : Text, (∀ d ∈ piece.head?, isSpace d = true ∨ d = '/') →
        (∀ c ∈ piece, Bare c) → piece = [] := by
      intro piece hhead hpiece
      cases piece with
      | nil => rfl
      | cons c piece =>
        obtain ⟨hspace, hslash, -⟩ := hpiece c List.mem_cons_self
        rcases hhead c rfl with hc | hc
        · rw [hspace] at hc
          cases hc
        · exact absurd hc hslash
    obtain rfl := hnil before hbefore.head hbefores
    obtain rfl := hnil after hafter.head hafters
    rcases hmark with rfl | rfl
    · simp
    · exact absurd rfl (hmarks _ List.mem_cons_self).2.2

end Retouch.Token

namespace Retouch

open Token

theorem readIdentifier_eq_ok_iff_tokens? {text spelling : Text} :
    readIdentifier text = .ok spelling ↔
      tokens? text = some [.name spelling] ∧ String.ofList spelling ∉ keywords := by
  unfold readIdentifier
  split
  · next h => simp [h]
  · next h => simp [h]
  · next name rest h =>
    rw [h]
    by_cases hkeyword : String.ofList name ∈ keywords
    · rw [if_pos (List.contains_iff_mem.2 hkeyword)]
      simp only [reduceCtorEq, false_iff]
      rintro ⟨heq, hno⟩
      obtain ⟨hname, -⟩ := List.cons.inj (Option.some.inj heq)
      exact hno (Token.name.inj hname ▸ hkeyword)
    · rw [if_neg (by simpa using hkeyword)]
      cases rest with
      | nil =>
        constructor
        · intro heq
          obtain rfl := Except.ok.inj heq
          exact ⟨rfl, hkeyword⟩
        · rintro ⟨heq, -⟩
          obtain ⟨hname, -⟩ := List.cons.inj (Option.some.inj heq)
          rw [Token.name.inj hname]
          rfl
      | cons token rest => simp
  · next hother hsome =>
    simp only [reduceCtorEq, false_iff, hsome]
    rintro ⟨heq, -⟩
    exact hother _ _ (Option.some.inj heq)

theorem readIdentifier_eq_ok_iff {text spelling : Text} :
    readIdentifier text = .ok spelling ↔ IsIdentifier spelling ∧ Padded text spelling := by
  rw [readIdentifier_eq_ok_iff_tokens?, tokens?_eq_name_iff, IsIdentifier, and_right_comm]

end Retouch
