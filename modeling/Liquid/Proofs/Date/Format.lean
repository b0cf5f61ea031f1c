import Liquid.Date.Format

/-!
# The patterns of dates

A pattern is literal text and directives behind percent signs, in one way only.

- `DateFormat.Directive`, `DateFormat.Pattern`: what a directive and a pattern stand for.
- `DateFormat.parse?_eq_some_iff`: a pattern is read as what it stands for, and nothing else is
  read.
- `DateFormat.AsksForZone`, `DateFormat.Pattern.zone_mem_iff`: the patterns that ask for the time
  zone.
- `DateFormat.write?_eq_some_iff`: the text of a moment is that of the parts, one behind the other.
- `DateFormat.write?_eq_none_iff`: there is none exactly where a part is the time zone.
-/

namespace Liquid.DateFormat

/-! ### The grammar -/

/-- The marks that choose the padding of a number. -/
inductive PadMark : Char → Pad → Prop where
  | none : PadMark '-' .none
  | zero : PadMark '0' .zero
  | space : PadMark '_' .space

/-- What the text of a directive stands for. -/
inductive Directive : List Char → List Item → Prop where
  /-- A number with its own padding. -/
  | number {c : Char} {field : Field} {pad : Pad} (h : number? c = some (field, pad)) :
    Directive [c] [.number field pad]
  /-- A number with a padding chosen for it. -/
  | padded {mark c : Char} {field : Field} {own pad : Pad} (hmark : PadMark mark pad)
    (h : number? c = some (field, own)) : Directive [mark, c] [.number field pad]
  /-- A letter that is no number. -/
  | composite {c : Char} {items : List Item} (h : composite? c = some items) : Directive [c] items
  /-- Digits of the fraction of the second. -/
  | digits {c : Char} {n : Nat} (h : digitCount? c = some n) :
    Directive [c, 'f'] [.word (.digits false n)]
  /-- Digits of the fraction of the second, with a point. -/
  | pointDigits {c : Char} {n : Nat} (h : digitCount? c = some n) :
    Directive ['.', c, 'f'] [.word (.digits true n)]
  /-- The fraction of the second. -/
  | fraction : Directive ['.', 'f'] [.word .fraction]
  /-- The offset from the time of Greenwich, in one of its longer forms. -/
  | offset {d : List Char}
    (h : d ∈ [['#', 'z'], [':', 'z'], [':', ':', 'z'], [':', ':', ':', 'z']]) : Directive d [.zone]

/-- What the text of a pattern stands for. -/
inductive Pattern : List Char → List Item → Prop where
  | nil : Pattern [] []
  /-- A character that is no percent sign. -/
  | literal {c : Char} {s : List Char} {items : List Item} (hc : c ≠ '%') (h : Pattern s items) :
    Pattern (c :: s) (.literal c :: items)
  /-- A directive behind a percent sign. -/
  | directive {d s : List Char} {first rest : List Item} (hd : Directive d first)
    (h : Pattern s rest) : Pattern ('%' :: (d ++ s)) (first ++ rest)

/-- The directives that ask for the time zone. -/
def zoneDirectives : List (List Char) :=
  [['z'], ['Z'], ['+'], ['#', 'z'], [':', 'z'], [':', ':', 'z'], [':', ':', ':', 'z']]

theorem composite?_zone_iff {c : Char} {items : List Item} (h : composite? c = some items) :
    .zone ∈ items ↔ c = 'z' ∨ c = 'Z' ∨ c = '+' := by
  unfold composite? at h
  split at h <;> cases h <;> decide

theorem number?_eq_none {c : Char} (h : c = 'z' ∨ c = 'Z' ∨ c = '+') : number? c = none := by
  rcases h with rfl | rfl | rfl <;> rfl

/-- A directive asks for the time zone if it is one of seven. -/
theorem Directive.zone_mem_iff {d : List Char} {items : List Item} (h : Directive d items) :
    .zone ∈ items ↔ d ∈ zoneDirectives := by
  have hletter : ∀ c : Char, [c] ∈ zoneDirectives ↔ c = 'z' ∨ c = 'Z' ∨ c = '+' := by
    intro c
    simp [zoneDirectives]
  cases h with
  | @number c field pad h =>
    rw [hletter]
    refine ⟨by simp, fun hzone => ?_⟩
    rw [number?_eq_none hzone] at h
    cases h
  | padded hmark h => cases hmark <;> simp [zoneDirectives]
  | composite h => rw [hletter, composite?_zone_iff h]
  | digits h => simp [zoneDirectives]
  | pointDigits h => simp [zoneDirectives]
  | fraction => simp [zoneDirectives]
  | offset h =>
    refine ⟨fun _ => ?_, fun _ => List.mem_singleton_self _⟩
    -- the longer forms stand behind the three letters
    exact List.mem_append_right [['z'], ['Z'], ['+']] h

/-! ### Reading -/

/-- A directive is read off the text in front of anything else. -/
theorem Directive.directive?_append {d : List Char} {items : List Item} (h : Directive d items)
    (s : List Char) : directive? (d ++ s) = some (items, d.length) := by
  cases h with
  | @number c field pad h =>
    unfold number? at h
    split at h <;> cases h <;> rfl
  | padded hmark h =>
    cases hmark with
    | none => exact congrArg (Option.map (·, 2)) (congrArg (Option.map _) h)
    | zero => exact congrArg (Option.map (·, 2)) (congrArg (Option.map _) h)
    | space => exact congrArg (Option.map (·, 2)) (congrArg (Option.map _) h)
  | @composite c _ h =>
    unfold composite? at h
    split at h <;> cases h <;> rfl
  | @digits c n h =>
    unfold digitCount? at h
    split at h <;> cases h <;> rfl
  | @pointDigits c n h =>
    unfold digitCount? at h
    split at h <;> cases h <;> rfl
  | fraction => rfl
  | offset h =>
    simp only [List.mem_cons, List.not_mem_nil, or_false] at h
    rcases h with rfl | rfl | rfl | rfl <;> rfl

theorem padded?_eq_some {pad : Pad} {c : Char} {items : List Item}
    (h : padded? pad c = some items) :
    ∃ field own, number? c = some (field, own) ∧ items = [.number field pad] := by
  obtain ⟨⟨field, own⟩, hc, rfl⟩ := Option.map_eq_some_iff.1 h
  exact ⟨field, own, hc, rfl⟩

/-- What is read off a text is a directive in front of it. -/
theorem exists_of_directive? {s : List Char} {items : List Item} {n : Nat}
    (h : directive? s = some (items, n)) :
    ∃ d rest, s = d ++ rest ∧ d.length = n ∧ Directive d items := by
  have hpadded : ∀ {mark : Char} {pad : Pad} {c : Char} {rest : List Char} , PadMark mark pad →
      (padded? pad c).map (·, 2) = some (items, n) →
      ∃ d rest', mark :: c :: rest = d ++ rest' ∧ d.length = n ∧ Directive d items := by
    intro mark pad c rest hmark h
    obtain ⟨_, hread, heq⟩ := Option.map_eq_some_iff.1 h
    cases heq
    obtain ⟨field, own, hc, rfl⟩ := padded?_eq_some hread
    exact ⟨[mark, c], rest, rfl, rfl, .padded hmark hc⟩
  unfold directive? at h
  split at h
  · exact hpadded .none h
  · exact hpadded .zero h
  · exact hpadded .space h
  · next rest =>
    cases h
    exact ⟨['#', 'z'], rest, rfl, rfl, .offset (by decide)⟩
  · next rest =>
    cases h
    exact ⟨[':', 'z'], rest, rfl, rfl, .offset (by decide)⟩
  · next rest =>
    cases h
    exact ⟨[':', ':', 'z'], rest, rfl, rfl, .offset (by decide)⟩
  · next rest =>
    cases h
    exact ⟨[':', ':', ':', 'z'], rest, rfl, rfl, .offset (by decide)⟩
  · next rest =>
    cases h
    exact ⟨['.', 'f'], rest, rfl, rfl, .fraction⟩
  · next c rest _ =>
    obtain ⟨count, hc, heq⟩ := Option.map_eq_some_iff.1 h
    cases heq
    exact ⟨['.', c, 'f'], rest, rfl, rfl, .pointDigits hc⟩
  · split at h
    · cases h
      exact ⟨[_, 'f'], _, rfl, rfl, .digits ‹digitCount? _ = some _›⟩
    · cases h
    · split at h
      · cases h
        exact ⟨[_], _, rfl, rfl, .number ‹number? _ = some _›⟩
      · obtain ⟨_, hread, heq⟩ := Option.map_eq_some_iff.1 h
        cases heq
        exact ⟨[_], _, rfl, rfl, .composite hread⟩
  · cases h

/-- A pattern is read as what it stands for, and no other text is read. -/
theorem parse?_eq_some_iff {s : List Char} {items : List Item} :
    parse? s = some items ↔ Pattern s items := by
  constructor
  · fun_induction parse? s generalizing items with
    | case1 =>
      intro h
      cases h
      exact .nil
    | case2 rest first n hdirective ih =>
      intro h
      obtain ⟨others, hothers, rfl⟩ := Option.map_eq_some_iff.1 h
      obtain ⟨d, behind, rfl, rfl, hd⟩ := exists_of_directive? hdirective
      rw [List.drop_left] at ih hothers
      exact .directive hd (ih hothers)
    | case3 => exact fun h => by cases h
    | case4 c rest hc ih =>
      intro h
      obtain ⟨others, hothers, rfl⟩ := Option.map_eq_some_iff.1 h
      exact .literal hc (ih hothers)
  · intro h
    induction h with
    | nil => rw [parse?]
    | literal hc _ ih =>
      rw [parse?, ih]
      · rfl
      · exact hc
    | @directive d s first rest hd _ ih =>
      rw [parse?]
      simp only [hd.directive?_append, List.drop_left, ih, Option.map_some]

theorem Pattern.unique {s : List Char} {items items' : List Item} (h : Pattern s items)
    (h' : Pattern s items') : items = items' :=
  Option.some.inj ((parse?_eq_some_iff.2 h).symm.trans (parse?_eq_some_iff.2 h'))

/-! ### The time zone -/

theorem Pattern.append {s t : List Char} {items others : List Item} (hs : Pattern s items)
    (ht : Pattern t others) : Pattern (s ++ t) (items ++ others) := by
  induction hs with
  | nil => exact ht
  | literal hc _ ih => exact .literal hc ih
  | @directive d s first rest hd _ ih =>
    have hpattern := Pattern.directive hd ih
    rwa [← List.append_assoc, ← List.append_assoc] at hpattern

/-- The pattern has a directive in it that asks for the time zone, between two patterns. -/
def AsksForZone (s : List Char) : Prop :=
  ∃ front d back, s = front ++ '%' :: (d ++ back) ∧ d ∈ zoneDirectives
    ∧ (∃ items, Pattern front items) ∧ ∃ items, Pattern back items

theorem directive_of_mem_zoneDirectives {d : List Char} (h : d ∈ zoneDirectives) :
    Directive d [.zone] := by
  rcases List.mem_append.1 (show d ∈ [['z'], ['Z'], ['+']] ++ _ from h) with hletter | hlonger
  · simp only [List.mem_cons, List.not_mem_nil, or_false] at hletter
    rcases hletter with rfl | rfl | rfl <;> exact .composite rfl
  · exact .offset hlonger

theorem AsksForZone.ne_nil {s : List Char} (h : AsksForZone s) : s ≠ [] := by
  obtain ⟨front, d, back, rfl, -⟩ := h
  exact List.append_ne_nil_of_right_ne_nil front (List.cons_ne_nil _ _)

theorem AsksForZone.exists_pattern {s : List Char} (h : AsksForZone s) :
    ∃ items, Pattern s items ∧ .zone ∈ items := by
  obtain ⟨front, d, back, rfl, hd, ⟨items, hfront⟩, others, hback⟩ := h
  refine ⟨_, hfront.append (.directive (directive_of_mem_zoneDirectives hd) hback), ?_⟩
  exact List.mem_append_right items List.mem_cons_self

/-- The time zone is a part of what a pattern stands for where a directive asks for it. -/
theorem Pattern.zone_mem_iff {s : List Char} {items : List Item} (h : Pattern s items) :
    .zone ∈ items ↔ AsksForZone s := by
  constructor
  · intro hzone
    induction h with
    | nil => cases hzone
    | @literal c s items hc _ ih =>
      obtain ⟨front, d, back, rfl, hd, ⟨others, hfront⟩, hback⟩ :=
        ih ((List.mem_cons.1 hzone).resolve_left (by simp))
      exact ⟨c :: front, d, back, rfl, hd, ⟨_, .literal hc hfront⟩, hback⟩
    | @directive d s first rest hd hs ih =>
      rcases List.mem_append.1 hzone with hfirst | hrest
      · exact ⟨[], d, s, rfl, hd.zone_mem_iff.1 hfirst, ⟨_, .nil⟩, _, hs⟩
      · obtain ⟨front, d', back, rfl, hd', ⟨others, hfront⟩, hback⟩ := ih hrest
        exact ⟨'%' :: (d ++ front), d', back, by simp, hd', ⟨_, .directive hd hfront⟩, hback⟩
  · intro hasks
    obtain ⟨others, hothers, hzone⟩ := hasks.exists_pattern
    rwa [h.unique hothers]

/-! ### Writing -/

/-- Only the time zone cannot be written. -/
theorem Item.write?_eq_none_iff {m : Moment} {item : Item} :
    item.write? m = none ↔ item = .zone := by
  cases item <;> simp [Item.write?]

/-- The text of a moment is that of the parts, one behind the other. -/
theorem write?_eq_some_iff {m : Moment} {items : List Item} {text : List Char} :
    write? m items = some text ↔
      ∃ texts : List (List Char), items.map (·.write? m) = texts.map some
        ∧ text = texts.flatten := by
  induction items generalizing text with
  | nil =>
    rw [write?, Option.some.injEq]
    constructor
    · rintro rfl
      exact ⟨[], rfl, rfl⟩
    · rintro ⟨texts, htexts, rfl⟩
      rw [List.map_eq_nil_iff.1 htexts.symm]
      rfl
  | cons item rest ih =>
    rw [write?]
    simp only [Option.bind_eq_bind, Option.bind_eq_some_iff, Option.some.injEq, ih]
    constructor
    · rintro ⟨first, hfirst, behind, ⟨texts, htexts, rfl⟩, rfl⟩
      exact ⟨first :: texts, by rw [List.map_cons, List.map_cons, hfirst, htexts], rfl⟩
    · rintro ⟨texts, htexts, rfl⟩
      cases texts with
      | nil => cases htexts
      | cons first texts =>
        obtain ⟨hfirst, hrest⟩ := List.cons.inj htexts
        exact ⟨first, hfirst, texts.flatten, ⟨texts, hrest, rfl⟩, rfl⟩

/-- There is none exactly where a part is the time zone. -/
theorem write?_eq_none_iff {m : Moment} {items : List Item} :
    write? m items = none ↔ .zone ∈ items := by
  induction items with
  | nil => simp [write?]
  | cons item rest ih =>
    rw [write?, List.mem_cons, eq_comm (a := Item.zone), ← Item.write?_eq_none_iff (m := m), ← ih]
    cases item.write? m with
    | none => simp
    | some first => cases write? m rest <;> simp

end Liquid.DateFormat
