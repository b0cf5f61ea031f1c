import Liquid.Proofs.Document.Grammar
import Liquid.Proofs.Except

/-!
# Verbatim bodies

The parser reads the body of a `raw` or of a `comment` token by token and counts the comments that
are open; the grammar of documents looks at the body as a whole. Here the two are the same.

- `Verbatim.close?`: the node that a verbatim body ends in when given tokens follow.
- `Verbatim.closes_iff`: the comment that is open ends behind a body that balances it, and not
  before.
- `Verbatim.verbatimNode?_eq_some_iff`: the rules of the grammar are what the parser does.
-/

namespace Liquid

@[simp] theorem Progress.tagName?_tag (markup : String) :
    Progress.tagName? (.tag markup) = (NamedTag.ofMarkup? markup).map Prod.fst := by
  rw [Progress.tagName?, NamedTag.ofMarkup?]
  cases Markup.split? markup.toList <;> rfl

namespace Item

@[simp] theorem countTag_nil (name : String) : countTag name [] = 0 := rfl

theorem countTag_cons (name : String) (t : Token) (body : List Token) :
    countTag name (t :: body) =
      countTag name body + if Progress.tagName? t = some name then 1 else 0 := by
  rw [countTag, List.countP_cons]
  by_cases h : Progress.tagName? t = some name
  · rw [if_pos h, if_pos (beq_iff_eq.2 h)]
    rfl
  · rw [if_neg h, if_neg (fun hb => h (beq_iff_eq.1 hb))]
    rfl

theorem countTag_cons_of_eq {name : String} {t : Token} (body : List Token)
    (h : Progress.tagName? t = some name) : countTag name (t :: body) = countTag name body + 1 := by
  rw [countTag_cons, if_pos h]

theorem countTag_cons_of_ne {name : String} {t : Token} (body : List Token)
    (h : Progress.tagName? t ≠ some name) : countTag name (t :: body) = countTag name body := by
  rw [countTag_cons, if_neg h, Nat.add_zero]

end Item

namespace Verbatim

open Item

/-- Whether the comment that is open, with `depth` comments in all, is the only one that is open
behind `body` and was open all along. -/
def Closes : (depth : Nat) → (body : List Token) → Prop
  | depth, [] => depth ≤ 1
  | depth, t :: body =>
    if Progress.tagName? t = some "comment" then Closes (depth + 1) body
    else if Progress.tagName? t = some "endcomment" then 1 < depth ∧ Closes (depth - 1) body
    else Closes depth body

instance decidableCloses : (depth : Nat) → (body : List Token) → Decidable (Closes depth body)
  | depth, [] => inferInstanceAs (Decidable (depth ≤ 1))
  | _, _ :: body =>
    have (n : Nat) : Decidable (Closes n body) := decidableCloses n body
    inferInstanceAs (Decidable (ite ..))

/-- The node that a verbatim body ends in, when `body` follows and then the tag `closing`. -/
def close? (v : Verbatim) (body : List Token) (closing : String) : Option Node :=
  match v with
  | .raw front =>
    if closing = "endraw" ∧ countTag "endraw" body = 0 then
      some (.raw (front ++ String.join (body.map Token.source)))
    else none
  | .comment depth => if closing = "endcomment" ∧ Closes depth body then some .comment else none

/-- A body closes `n + 1` comments where it has `n` tags more that close than tags that open, and
has no more of them in any part in front. -/
theorem closes_iff (n : Nat) (body : List Token) :
    Closes (n + 1) body ↔
      (∀ k ≤ body.length,
          countTag "endcomment" (body.take k) ≤ n + countTag "comment" (body.take k))
        ∧ countTag "endcomment" body = n + countTag "comment" body := by
  induction body generalizing n with
  | nil =>
    rw [Closes]
    constructor
    · intro h
      refine ⟨fun k _ => ?_, ?_⟩
      · rw [List.take_nil, countTag_nil]
        exact Nat.zero_le _
      · rw [countTag_nil, countTag_nil]
        omega
    · rintro ⟨-, h⟩
      rw [countTag_nil, countTag_nil] at h
      omega
  | cons t body ih =>
    have hne : ("comment" : String) ≠ "endcomment" := by decide
    -- a part in front is empty, or it is the token and a part in front of the others
    have htake : ∀ P : List Token → Prop,
        (∀ k ≤ (t :: body).length, P ((t :: body).take k)) ↔
          P [] ∧ ∀ k ≤ body.length, P (t :: body.take k) := by
      intro P
      constructor
      · intro h
        exact ⟨h 0 (Nat.zero_le _), fun k hk => h (k + 1) (Nat.succ_le_succ hk)⟩
      · rintro ⟨hnil, hcons⟩ (_ | k) hk
        · exact hnil
        · exact hcons k (Nat.le_of_succ_le_succ hk)
    rw [htake fun part => countTag "endcomment" part ≤ n + countTag "comment" part, Closes]
    simp only [countTag_nil, Nat.zero_le, true_and]
    by_cases hopen : Progress.tagName? t = some "comment"
    · have hend : Progress.tagName? t ≠ some "endcomment" := by simp [hopen]
      have hshift : ∀ m, n + 1 + m = n + (m + 1) := fun m => by omega
      simp only [if_pos hopen, ih, countTag_cons_of_eq _ hopen, countTag_cons_of_ne _ hend, hshift]
    · by_cases hend : Progress.tagName? t = some "endcomment"
      · simp only [if_neg hopen, if_pos hend, countTag_cons_of_ne _ hopen,
          countTag_cons_of_eq _ hend]
        cases n with
        | zero =>
          constructor
          · rintro ⟨h, -⟩
            omega
          · -- the tag in front alone has closed too much
            rintro ⟨h, -⟩
            have hfirst := h 0 (Nat.zero_le _)
            rw [List.take_zero, countTag_nil, countTag_nil] at hfirst
            omega
        | succ n =>
          rw [Nat.add_sub_cancel, ih]
          have hshift : ∀ m l, m + 1 ≤ n + 1 + l ↔ m ≤ n + l := fun m l => by omega
          have hshift' : ∀ m l, m + 1 = n + 1 + l ↔ m = n + l := fun m l => by omega
          simp only [hshift, hshift']
          constructor
          · rintro ⟨-, hbody⟩
            exact hbody
          · intro hbody
            exact ⟨by omega, hbody⟩
      · simp only [if_neg hopen, if_neg hend, ih, countTag_cons_of_ne _ hopen,
          countTag_cons_of_ne _ hend]

theorem closes_one_iff (body : List Token) : Closes 1 body ↔ Item.Balanced body := by
  rw [closes_iff 0 body, Item.Balanced]
  simp only [Nat.zero_add]

/-- The rules of the grammar for `raw` and `comment` are how the parser reads their bodies. -/
theorem verbatimNode?_eq_some_iff (load : String → Except Error (List Node)) (markup : String)
    {name : String} {tag : BuiltinTag} {body : List Token} {closing : String} {node : Node}
    (h : BuiltinTag.ofName? name = some tag) :
    verbatimNode? name body closing = some node ↔
      (Block.openBuiltin load tag markup = .ok .raw ∧ (raw "").close? body closing = some node)
      ∨ (Block.openBuiltin load tag markup = .ok .comment
        ∧ (comment 1).close? body closing = some node) := by
  rw [verbatimNode?, h]
  cases tag with
  | raw => simp [Block.openBuiltin, close?]
  | comment => simp [Block.openBuiltin, close?, closes_one_iff]
  | assign | capture | cycle | loop | branch | negatedBranch | case | inclusion | table =>
    simp [Block.openBuiltin, bind_eq_ok_iff, map_eq_ok_iff]

/-! ### One token of a body -/

/-- The node that a verbatim body ends in at a token, if it ends there. -/
def ended? (v : Verbatim) (t : Token) : Option Node :=
  match v with
  | .raw front => if Progress.tagName? t = some "endraw" then some (.raw front) else none
  | .comment depth =>
    if Progress.tagName? t = some "endcomment" ∧ depth ≤ 1 then some .comment else none

/-- Only a tag ends a verbatim body. -/
theorem exists_tag_of_ended? {v : Verbatim} {t : Token} {node : Node} (h : v.ended? t = some node) :
    ∃ markup named, t = .tag markup ∧ NamedTag.ofMarkup? markup = some named := by
  have hname : ∃ name, Progress.tagName? t = some name := by
    cases v with
    | raw front =>
      rw [ended?] at h
      by_cases hend : Progress.tagName? t = some "endraw"
      · exact ⟨_, hend⟩
      · rw [if_neg hend] at h
        cases h
    | comment depth =>
      rw [ended?] at h
      by_cases hend : Progress.tagName? t = some "endcomment" ∧ depth ≤ 1
      · exact ⟨_, hend.1⟩
      · rw [if_neg hend] at h
        cases h
  obtain ⟨name, hname⟩ := hname
  cases t with
  | literal s => cases hname
  | output markup => cases hname
  | tag markup =>
    rw [Progress.tagName?_tag, Option.map_eq_some_iff] at hname
    obtain ⟨named, hnamed, -⟩ := hname
    exact ⟨markup, named, rfl, hnamed⟩

/-- What a verbatim body is behind a token that does not end it. -/
def next (v : Verbatim) (t : Token) : Verbatim :=
  match v with
  | .raw front => .raw (front ++ t.source)
  | .comment depth =>
    if Progress.tagName? t = some "comment" then .comment (depth + 1)
    else if Progress.tagName? t = some "endcomment" then .comment (depth - 1)
    else .comment depth

/-- The parser reads a token of a verbatim body as the end of it, or it goes on behind it. -/
theorem readVerbatim_eq (v : Verbatim) (t : Token) {p : Progress} (h : p.verbatim = some v) :
    p.readVerbatim t v =
      match v.ended? t with
      | some node => { p.add node with verbatim := none }
      | none => { p with verbatim := some (v.next t) } := by
  cases v with
  | raw front =>
    rw [Progress.readVerbatim, ended?, next]
    by_cases hend : Progress.tagName? t = some "endraw"
    · rw [if_pos hend, if_pos hend]
    · rw [if_neg hend, if_neg hend]
  | comment depth =>
    rw [Progress.readVerbatim, ended?, next]
    by_cases hopen : Progress.tagName? t = some "comment"
    · simp [hopen]
    · by_cases hend : Progress.tagName? t = some "endcomment"
      · by_cases hd : depth ≤ 1 <;> simp [hend, hd]
      · simp [hopen, hend, ← h]

theorem close?_nil (v : Verbatim) {t : Token} {name : String}
    (h : Progress.tagName? t = some name) : v.close? [] name = v.ended? t := by
  cases v with
  | raw front => simp [close?, ended?, h]
  | comment depth =>
    by_cases hc : name = "endcomment" ∧ depth ≤ 1 <;> simp [close?, ended?, h, Closes, hc]

theorem close?_cons (v : Verbatim) (t : Token) (body : List Token) (name : String) :
    v.close? (t :: body) name =
      if (v.ended? t).isSome then none else (v.next t).close? body name := by
  cases v with
  | raw front =>
    by_cases hend : Progress.tagName? t = some "endraw"
    · simp [close?, ended?, hend, countTag_cons_of_eq body hend]
    · simp [close?, ended?, next, hend, countTag_cons_of_ne body hend, String.append_assoc]
  | comment depth =>
    by_cases hopen : Progress.tagName? t = some "comment"
    · simp [close?, ended?, next, hopen, Closes]
    · by_cases hend : Progress.tagName? t = some "endcomment"
      · by_cases hd : depth ≤ 1
        · simp [close?, ended?, hend, Closes, hd, Nat.not_lt.2 hd]
        · simp [close?, ended?, next, hend, Closes, hd, Nat.lt_of_not_le hd]
      · simp [close?, ended?, next, hopen, hend, Closes]

end Verbatim

end Liquid
