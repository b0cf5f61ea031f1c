import Liquid.Proofs.Text.Blank
import Liquid.Text.Html
import Liquid.Text.Search

/-!
# Entities

Escaped text is a sequence of entities and of characters without a meaning in HTML, whether or not
the entities were there before. No `&` stands inside an entity, so that where an entity begins does
not depend on what was done to the text in front of it.

- `Html.takeEntity?_append`, `Html.entity_of_takeEntity?`: the scanner finds the entities, and
  nothing else.
- `Html.Escaped`: escaped text; `Html.escaped_escape`, `Html.escaped_escapeOnce`: both ways of
  escaping give it, and `Html.escapeOnce_of_escaped`: escaping once leaves it as it is.
- `Html.Harmless`: what cannot be in such text.
- `Html.unescape_escape`: the entities turned back into characters.
- `Html.escapeOnce_append_entity`: an entity stays where it is.
-/

namespace Liquid.Text.Html

/-! ### Entities -/

/-- A nonempty text of characters of a class. -/
def IsRun (p : Char → Bool) (run : List Char) : Prop := run ≠ [] ∧ ∀ c ∈ run, p c = true

/-- A name or a number between `&` and `;`. The digits of a decimal number may be those of any
script. -/
inductive Entity : List Char → Prop where
  /-- A name. -/
  | name {run : List Char} (h : IsRun isAsciiLetter run) : Entity ('&' :: (run ++ [';']))
  /-- A number in decimal digits. -/
  | decimal {run : List Char} (h : IsRun isDigit run) : Entity ('&' :: '#' :: (run ++ [';']))
  /-- A number in hexadecimal digits. -/
  | hexadecimal {run : List Char} (h : IsRun isHexDigit run) :
    Entity ('&' :: '#' :: 'x' :: (run ++ [';']))

/-- The characters that have a meaning in HTML. -/
def specials : List Char := ['&', '<', '>', '"', '\'']

theorem escapeChar_of_not_mem {c : Char} (h : c ∉ specials) : escapeChar c = [c] := by
  simp only [specials, List.mem_cons, List.not_mem_nil, or_false, not_or] at h
  obtain ⟨hamp, hlt, hgt, hquote, happ⟩ := h
  unfold escapeChar
  split <;> first | contradiction | rfl

theorem IsRun.not_mem_specials {p : Char → Bool} {run : List Char} (h : IsRun p run)
    (hp : specials.any p = false) : ∀ c ∈ run, c ∉ specials := fun c hc hmem =>
  List.any_eq_false.1 hp c hmem (h.2 c hc)

/-- The `&` of an entity is its only character with a meaning in HTML. -/
theorem Entity.exists_cons {e : List Char} (h : Entity e) :
    ∃ body, e = '&' :: body ∧ ∀ c ∈ body, c ∉ specials := by
  have hclosing : ∀ c ∈ [';'], c ∉ specials := List.forall_mem_singleton.2 (by decide)
  cases h with
  | name h =>
    have hrun := h.not_mem_specials (by decide)
    exact ⟨_, rfl, List.forall_mem_append.2 ⟨hrun, hclosing⟩⟩
  | decimal h =>
    have hrun := h.not_mem_specials (by decide)
    exact ⟨_, rfl, List.forall_mem_cons.2 ⟨by decide, List.forall_mem_append.2 ⟨hrun, hclosing⟩⟩⟩
  | hexadecimal h =>
    have hrun := h.not_mem_specials (by decide)
    exact ⟨_, rfl, List.forall_mem_cons.2 ⟨by decide, List.forall_mem_cons.2 ⟨by decide,
      List.forall_mem_append.2 ⟨hrun, hclosing⟩⟩⟩⟩

/-! ### The scanner -/

theorem IsRun.exists_cons {p : Char → Bool} {run : List Char} (h : IsRun p run) :
    ∃ c rest, run = c :: rest ∧ p c = true := by
  obtain ⟨c, rest, rfl⟩ := List.exists_cons_of_ne_nil h.1
  exact ⟨c, rest, rfl, h.2 c List.mem_cons_self⟩

theorem takeClosed?_of_isRun {p : Char → Bool} {run : List Char} (h : IsRun p run)
    (hp : p ';' = false) (rest : List Char) :
    takeClosed? p (run ++ ';' :: rest) = some (run ++ [';'], rest) := by
  have hclosing : ∀ c ∈ (';' :: rest).head?, p c = false := by
    rintro c ⟨⟩
    exact hp
  have htake := takeWhile_run h.2 hclosing
  have hdrop := dropWhile_run h.2 hclosing
  obtain ⟨c, run, rfl, -⟩ := h.exists_cons
  rw [takeClosed?, htake, hdrop]
  rfl

theorem exists_isRun_of_takeClosed? {p : Char → Bool} {s e rest : List Char}
    (h : takeClosed? p s = some (e, rest)) : ∃ run, IsRun p run ∧ e = run ++ [';'] := by
  unfold takeClosed? at h
  split at h
  · cases h
  · next _ hne =>
    cases h
    exact ⟨s.takeWhile p, ⟨hne, fun c hc => List.all_eq_true.1 List.all_takeWhile c hc⟩, rfl⟩
  · cases h

/-- What the scanner takes off a text behind a `&` makes an entity. -/
theorem entity_of_takeEntity? {s e rest : List Char} (h : takeEntity? s = some (e, rest)) :
    Entity ('&' :: e) := by
  unfold takeEntity? at h
  split at h
  · obtain ⟨⟨e', rest'⟩, he', heq⟩ := Option.map_eq_some_iff.1 h
    obtain ⟨run, hrun, rfl⟩ := exists_isRun_of_takeClosed? he'
    cases heq
    exact .hexadecimal hrun
  · obtain ⟨⟨e', rest'⟩, he', heq⟩ := Option.map_eq_some_iff.1 h
    obtain ⟨run, hrun, rfl⟩ := exists_isRun_of_takeClosed? he'
    cases heq
    exact .decimal hrun
  · obtain ⟨run, hrun, rfl⟩ := exists_isRun_of_takeClosed? h
    exact .name hrun

theorem takeEntity?_name {c : Char} (hc : c ≠ '#') (s : List Char) :
    takeEntity? (c :: s) = takeClosed? isAsciiLetter (c :: s) := by
  unfold takeEntity?
  split
  · next heq => exact absurd (List.cons.inj heq).1 hc
  · next heq => exact absurd (List.cons.inj heq).1 hc
  · rfl

theorem takeEntity?_decimal {c : Char} (hc : c ≠ 'x') (s : List Char) :
    takeEntity? ('#' :: c :: s) =
      (takeClosed? isDigit (c :: s)).map fun e => ('#' :: e.1, e.2) := by
  unfold takeEntity?
  split
  · next heq => exact absurd (List.cons.inj (List.cons.inj heq).2).1 hc
  · next heq =>
    cases heq
    rfl
  · next hnot => exact absurd rfl (hnot _)

/-- The scanner takes the rest of an entity off. -/
theorem takeEntity?_append {e : List Char} (he : Entity ('&' :: e)) (rest : List Char) :
    takeEntity? (e ++ rest) = some (e, rest) := by
  generalize hentity : '&' :: e = entity at he
  cases he with
  | name h =>
    cases hentity
    obtain ⟨c, run, rfl, hc⟩ := h.exists_cons
    rw [List.append_assoc, List.cons_append, takeEntity?_name (ne_of_class hc (by decide))]
    exact takeClosed?_of_isRun h (by decide) rest
  | decimal h =>
    cases hentity
    obtain ⟨c, run, rfl, hc⟩ := h.exists_cons
    rw [List.cons_append, List.append_assoc, List.cons_append,
      takeEntity?_decimal (ne_of_class hc (by decide))]
    exact congrArg (Option.map _) (takeClosed?_of_isRun h (by decide) rest)
  | hexadecimal h =>
    cases hentity
    rw [List.cons_append, List.cons_append, List.append_assoc]
    exact congrArg (Option.map _) (takeClosed?_of_isRun h (by decide) rest)

/-! ### Escaped text -/

/-- An entity in front stays as it is. -/
theorem escapeOnce_entity {e : List Char} (he : Entity e) (s : List Char) :
    escapeOnce (e ++ s) = e ++ escapeOnce s := by
  obtain ⟨body, rfl, -⟩ := he.exists_cons
  rw [List.cons_append, escapeOnce]
  split
  · next entity rest h =>
    cases (takeEntity?_append he s).symm.trans h
    rfl
  · next h => cases (takeEntity?_append he s).symm.trans h

/-- A `&` without an entity is escaped. -/
theorem escapeOnce_amp {s : List Char} (h : takeEntity? s = none) :
    escapeOnce ('&' :: s) = escapeChar '&' ++ escapeOnce s := by
  rw [escapeOnce]
  split
  · next h' => cases h.symm.trans h'
  · rfl

theorem escapeOnce_cons {c : Char} (hc : c ≠ '&') (s : List Char) :
    escapeOnce (c :: s) = escapeChar c ++ escapeOnce s := by
  rw [escapeOnce]
  exact hc

/-- A sequence of entities and of characters without a meaning in HTML. -/
inductive Escaped : List Char → Prop where
  /-- Nothing. -/
  | nil : Escaped []
  /-- A character without a meaning. -/
  | char {c : Char} {s : List Char} (hc : c ∉ specials) (h : Escaped s) : Escaped (c :: s)
  /-- An entity. -/
  | entity {e s : List Char} (he : Entity e) (h : Escaped s) : Escaped (e ++ s)

theorem Escaped.append {s t : List Char} (hs : Escaped s) (ht : Escaped t) : Escaped (s ++ t) := by
  induction hs with
  | nil => exact ht
  | char hc _ ih => exact .char hc ih
  | entity he _ ih =>
    rw [List.append_assoc]
    exact .entity he ih

/-- Escaped text stays as it is. -/
theorem escapeOnce_of_escaped {s : List Char} (h : Escaped s) : escapeOnce s = s := by
  induction h with
  | nil => rw [escapeOnce]
  | char hc _ ih =>
    rw [escapeOnce_cons (List.ne_of_not_mem_cons hc), escapeChar_of_not_mem hc, ih]
    rfl
  | entity he _ ih => rw [escapeOnce_entity he, ih]

/-- The characters with a meaning have an entity each. -/
theorem entity_escapeChar {c : Char} (hc : c ∈ specials) : Entity (escapeChar c) := by
  have hname : ∀ run : List Char, run ≠ [] → run.all isAsciiLetter = true →
      Entity ('&' :: (run ++ [';'])) := fun run hne hrun =>
    .name ⟨hne, List.all_eq_true.1 hrun⟩
  simp only [specials, List.mem_cons, List.not_mem_nil, or_false] at hc
  rcases hc with rfl | rfl | rfl | rfl | rfl
  · exact hname "amp".toList (by decide) (by decide)
  · exact hname "lt".toList (by decide) (by decide)
  · exact hname "gt".toList (by decide) (by decide)
  · exact hname "quot".toList (by decide) (by decide)
  · have hnumber : IsRun isDigit ['3', '9'] := ⟨by decide, List.all_eq_true.1 (by decide)⟩
    exact .decimal hnumber

theorem escaped_escapeChar (c : Char) : Escaped (escapeChar c) := by
  by_cases hc : c ∈ specials
  · rw [← List.append_nil (escapeChar c)]
    exact .entity (entity_escapeChar hc) .nil
  · rw [escapeChar_of_not_mem hc]
    exact .char hc .nil

theorem escaped_escape (s : List Char) : Escaped (escape s) := by
  induction s with
  | nil => exact .nil
  | cons c s ih =>
    rw [escape, List.flatMap_cons]
    exact (escaped_escapeChar c).append ih

theorem escaped_escapeOnce (s : List Char) : Escaped (escapeOnce s) := by
  induction s using escapeOnce.induct with
  | case1 =>
    rw [escapeOnce]
    exact .nil
  | case2 rest entity rest' h ih =>
    have hentity := entity_of_takeEntity? h
    rw [takeEntity?_eq_some h]
    rw [← List.cons_append, escapeOnce_entity hentity]
    exact .entity hentity ih
  | case3 rest h ih =>
    rw [escapeOnce_amp h]
    exact (escaped_escapeChar '&').append ih
  | case4 c rest hc ih =>
    rw [escapeOnce_cons hc]
    exact (escaped_escapeChar c).append ih

/-! ### What escaped text cannot do -/

/-- Text in which nothing opens or closes a tag or an attribute, and in which every `&` begins an
entity. -/
structure Harmless (t : List Char) : Prop where
  /-- No brackets and no quotes. -/
  not_mem : ∀ c ∈ ['<', '>', '"', '\''], c ∉ t
  /-- Every `&` begins an entity. -/
  entity : ∀ u v, t = u ++ '&' :: v → ∃ e rest, Entity e ∧ '&' :: v = e ++ rest

theorem Escaped.harmless {t : List Char} (h : Escaped t) : Harmless t := by
  induction h with
  | nil => exact ⟨nofun, fun u v h => absurd h (by simp)⟩
  | @char c s hc _ ih =>
    refine ⟨fun d hd hmem => ?_, fun u v heq => ?_⟩
    · rcases List.mem_cons.1 hmem with rfl | hmem
      · exact hc (List.mem_cons_of_mem _ hd)
      · exact ih.not_mem d hd hmem
    · cases u with
      | nil => exact absurd (List.mem_cons.2 (.inl (List.cons.inj heq).1)) hc
      | cons d u => exact ih.entity u v (List.cons.inj heq).2
  | @entity e s he _ ih =>
    obtain ⟨body, rfl, hbody⟩ := he.exists_cons
    refine ⟨fun d hd hmem => ?_, fun u v heq => ?_⟩
    · rcases List.mem_cons.1 hmem with rfl | hmem
      · exact absurd hd (by decide)
      rcases List.mem_append.1 hmem with hmem | hmem
      · exact hbody d hmem (List.mem_cons_of_mem _ hd)
      · exact ih.not_mem d hd hmem
    · cases u with
      | nil => exact ⟨_, s, he, heq.symm⟩
      | cons d u =>
        -- no `&` is inside the entity, so this one stands behind it
        rcases List.append_eq_append_iff.1 (List.cons.inj heq).2 with ⟨w, rfl, hw⟩ | ⟨w, hw, hs⟩
        · exact ih.entity w v hw
        · cases w with
          | nil => exact ih.entity [] v hs.symm
          | cons a w =>
            cases hs
            exact absurd List.mem_cons_self (hbody '&' (hw ▸ by simp))

/-! ### Back -/

/-- The character whose entity stands in front of a text, and the rest. -/
def takeEscaped? (s : List Char) : Option (Char × List Char) :=
  specials.findSome? fun c => (after? (escapeChar c) s).map fun rest => (c, rest)

theorem takeEscaped?_eq_some {s : List Char} {e : Char × List Char} (h : takeEscaped? s = some e) :
    e.1 ∈ specials ∧ s = escapeChar e.1 ++ e.2 := by
  obtain ⟨c, hc, h⟩ := List.exists_of_findSome?_eq_some h
  obtain ⟨rest, hrest, rfl⟩ := Option.map_eq_some_iff.1 h
  exact ⟨hc, after?_eq_some.1 hrest⟩

theorem escapeChar_ne_nil (c : Char) : escapeChar c ≠ [] := by
  unfold escapeChar
  split <;> exact List.cons_ne_nil _ _

/-- The text with the five entities that `escape` writes turned back into characters, in one pass
from the left. -/
def unescape (s : List Char) : List Char :=
  match s with
  | [] => []
  | c :: rest =>
    match _h : takeEscaped? (c :: rest) with
    | some (c', rest') => c' :: unescape rest'
    | none => c :: unescape rest
termination_by s.length
decreasing_by
  · have hlength := congrArg List.length (takeEscaped?_eq_some _h).2
    have hpos := List.length_pos_iff.2 (escapeChar_ne_nil c')
    simp only [List.length_append] at hlength
    omega
  · simp

theorem takeEscaped?_append {c : Char} (hc : c ∈ specials) (s : List Char) :
    takeEscaped? (escapeChar c ++ s) = some (c, s) := by
  simp only [specials, List.mem_cons, List.not_mem_nil, or_false] at hc
  rcases hc with rfl | rfl | rfl | rfl | rfl <;> rfl

theorem takeEscaped?_cons {c : Char} (hc : c ≠ '&') (s : List Char) :
    takeEscaped? (c :: s) = none := by
  cases h : takeEscaped? (c :: s) with
  | none => rfl
  | some e =>
    obtain ⟨hmem, heq⟩ := takeEscaped?_eq_some h
    obtain ⟨body, hbody, -⟩ := (entity_escapeChar hmem).exists_cons
    rw [hbody] at heq
    exact absurd (List.cons.inj heq).1 hc

theorem unescape_append (c : Char) (s : List Char) :
    unescape (escapeChar c ++ s) = c :: unescape s := by
  by_cases hc : c ∈ specials
  · have htake := takeEscaped?_append hc s
    obtain ⟨body, hbody, -⟩ := (entity_escapeChar hc).exists_cons
    rw [hbody, List.cons_append] at htake ⊢
    rw [unescape]
    split
    · next h =>
      cases htake.symm.trans h
      rfl
    · next h => cases htake.symm.trans h
  · have htake := takeEscaped?_cons (List.ne_of_not_mem_cons hc) s
    rw [escapeChar_of_not_mem hc, List.singleton_append, unescape]
    split
    · next h => cases htake.symm.trans h
    · rfl

/-- Escaped text is read back. -/
theorem unescape_escape (s : List Char) : unescape (escape s) = s := by
  induction s with
  | nil => rw [escape, List.flatMap_nil, unescape]
  | cons c s ih => rw [escape, List.flatMap_cons, unescape_append, ← escape, ih]

/-! ### Entities in the middle -/

/-- A `&` ends whatever the scanner is in. -/
theorem takeEntity?_append_amp {s : List Char} (h : takeEntity? s = none) (t : List Char) :
    takeEntity? (s ++ '&' :: t) = none := by
  cases htake : takeEntity? (s ++ '&' :: t) with
  | none => rfl
  | some found =>
    obtain ⟨e, rest⟩ := found
    have he := entity_of_takeEntity? htake
    obtain ⟨body, hbody, hspecial⟩ := he.exists_cons
    cases hbody
    rcases List.append_eq_append_iff.1 (takeEntity?_eq_some htake) with ⟨w, rfl, hw⟩ | ⟨w, rfl, hw⟩
    · cases w with
      | nil =>
        rw [List.append_nil] at he
        rw [← List.append_nil s, takeEntity?_append he] at h
        cases h
      | cons c w =>
        cases hw
        exact absurd List.mem_cons_self (hspecial '&' (by simp))
    · rw [takeEntity?_append he] at h
      cases h

/-- What is done in front of a `&` does not depend on what follows. -/
theorem escapeOnce_append_amp (s t : List Char) :
    escapeOnce (s ++ '&' :: t) = escapeOnce s ++ escapeOnce ('&' :: t) := by
  induction s using escapeOnce.induct with
  | case1 => rw [escapeOnce, List.nil_append, List.nil_append]
  | case2 rest entity rest' h ih =>
    have hentity := entity_of_takeEntity? h
    rw [takeEntity?_eq_some h, ← List.cons_append, List.append_assoc, escapeOnce_entity hentity,
      escapeOnce_entity hentity, ih, List.append_assoc]
  | case3 rest h ih =>
    rw [List.cons_append, escapeOnce_amp (takeEntity?_append_amp h t), escapeOnce_amp h, ih,
      List.append_assoc]
  | case4 c rest hc ih =>
    rw [List.cons_append, escapeOnce_cons hc, escapeOnce_cons hc, ih, List.append_assoc]

/-- An entity stays where it is. -/
theorem escapeOnce_append_entity {e : List Char} (he : Entity e) (s t : List Char) :
    escapeOnce (s ++ e ++ t) = escapeOnce s ++ e ++ escapeOnce t := by
  have hentity := escapeOnce_entity he t
  obtain ⟨body, rfl, -⟩ := he.exists_cons
  rw [List.append_assoc, List.append_assoc, ← hentity]
  exact escapeOnce_append_amp s (body ++ t)

end Liquid.Text.Html
