import Liquid.Proofs.Document.Remainder

/-!
# Reading a document

The parser accepts the documents of the grammar, with the trees that the grammar gives them, and
nothing else; and it takes a list of tokens for one document only.

- `Unread`: what a token does when it is read can be undone on what is still to come.
- `unread_read`: this holds of every token that the parser reads.
- `readAll_finish_eq_ok_iff`, `Accepts.unique`: the same for all tokens.
- `Engine.parse_eq_ok_iff`: a source compiles where its tokens are a document, which is then the
  only one.

The induction is on the tokens. A remainder of a derivation and the state of the parser move on
together, so the grammar, which is a tree, needs no induction of its own.
-/

namespace Liquid

open Item

variable {fs : FileSystem} {depth : Nat}

/-- The token `t` in front of `tokens` can be put back behind the given result of reading it: what
is accepted in front of it is what is accepted behind it, with the token put back. -/
def Unread (fs : FileSystem) (depth : Nat) (p : Progress) (t : Token) (tokens : List Token)
    (result : Except Error Progress) : Prop :=
  ∃ put : Remainder → Remainder, ∀ w out, Accepts fs depth p (t :: tokens) w out ↔
    ∃ p' w', result = .ok p' ∧ w = put w' ∧ Accepts fs depth p' tokens w' out

section

variable {p p' : Progress} {t : Token} {tokens : List Token}

theorem Unread.of_error {e : Error} (h : ∀ w out, ¬ Accepts fs depth p (t :: tokens) w out) :
    Unread fs depth p t tokens (.error e) := by
  refine ⟨id, fun w out => ?_⟩
  constructor
  · intro ha
    exact (h w out ha).elim
  · rintro ⟨p', w', hp, -⟩
    cases hp

theorem Unread.of_ok (put : Remainder → Remainder)
    (h : ∀ w out, Accepts fs depth p (t :: tokens) w out ↔
      ∃ w', w = put w' ∧ Accepts fs depth p' tokens w' out) :
    Unread fs depth p t tokens (.ok p') := by
  refine ⟨put, fun w out => ?_⟩
  rw [h]
  constructor
  · rintro ⟨w', hw, ha⟩
    exact ⟨p', w', rfl, hw, ha⟩
  · rintro ⟨p'', w', hp, hw, ha⟩
    cases hp
    exact ⟨w', hw, ha⟩

end

section

variable {before : List Node} {frames : List Frame} {t : Token} {tokens : List Token}

/-- A token that only one item can begin with, and that is all of it. -/
theorem Unread.of_item {item : Item} {node : Node} (htokens : item.tokens = [t])
    (hnode : item.node? fs depth = some node)
    (h : ∀ w out, Accepts fs depth ⟨before, frames, none⟩ (t :: tokens) w out →
      ∃ w', w = Remainder.cons item w') :
    Unread fs depth ⟨before, frames, none⟩ t tokens (.ok ⟨before ++ [node], frames, none⟩) := by
  refine .of_ok (Remainder.cons item) fun w out => ?_
  constructor
  · intro ha
    obtain ⟨w', rfl⟩ := h w out ha
    obtain ⟨node', rest, hnode', htokens', ha⟩ := accepts_cons_iff.1 ha
    rw [htokens] at htokens'
    rw [hnode] at hnode'
    cases htokens'
    cases hnode'
    exact ⟨w', rfl, ha⟩
  · rintro ⟨w', rfl, ha⟩
    exact accepts_cons_iff.2 ⟨node, tokens, hnode, by rw [htokens]; rfl, ha⟩

/-! ### Texts and outputs -/

/-- A token that is no tag begins an item. -/
theorem Accepts.exists_cons_of_not_tag {w out} (ht : ∀ markup, t ≠ .tag markup)
    (h : Accepts fs depth ⟨before, frames, none⟩ (t :: tokens) w out) :
    ∃ item w' node more, w = Remainder.cons item w' ∧ item.node? fs depth = some node
      ∧ t :: tokens = item.tokens ++ more := by
  rcases h.cons_or_delimiter with ⟨item, w', rfl⟩ | ⟨-, -, -, markup, -, -, -, -, rfl, -⟩
  · obtain ⟨node, rest, hnode, htokens, -⟩ := accepts_cons_iff.1 h
    exact ⟨item, w', node, rest, rfl, hnode, htokens⟩
  · exact (ht markup rfl).elim

theorem unread_literal (text : String) :
    Unread fs depth ⟨before, frames, none⟩ (.literal text) tokens
      (if text.toList = Token.outputOpener ∨ text.toList = Token.tagOpener then
        .error (.markup (.unclosed text) (text ++ Progress.literalText tokens))
      else .ok ⟨before ++ [.text text], frames, none⟩) := by
  have hitem : ∀ w out,
      Accepts fs depth ⟨before, frames, none⟩ (.literal text :: tokens) w out →
      ∃ w' node, w = Remainder.cons (.text text) w'
        ∧ (Item.text text).node? fs depth = some node := by
    intro w out h
    obtain ⟨item, w', node, more, rfl, hnode, htokens⟩ := h.exists_cons_of_not_tag (by simp)
    cases item with
    | text s =>
      cases htokens
      exact ⟨w', node, rfl, hnode⟩
    | output | tag | inclusion | verbatim | block => cases htokens
  by_cases hopen : text.toList = Token.outputOpener ∨ text.toList = Token.tagOpener
  · rw [if_pos hopen]
    refine .of_error fun w out h => ?_
    obtain ⟨w', node, -, hnode⟩ := hitem w out h
    rw [Item.node?, if_pos hopen] at hnode
    cases hnode
  · rw [if_neg hopen]
    have hnode : (Item.text text).node? fs depth = some (.text text) := by
      rw [Item.node?, if_neg hopen]
    refine .of_item rfl hnode fun w out h => ?_
    obtain ⟨w', node, hw, -⟩ := hitem w out h
    exact ⟨w', hw⟩

theorem unread_output (markup : String) :
    Unread fs depth ⟨before, frames, none⟩ (.output markup) tokens
      ((fun pipeline => ⟨before ++ [.output pipeline], frames, none⟩) <$>
        Pipeline.parse markup) := by
  have hitem : ∀ w out,
      Accepts fs depth ⟨before, frames, none⟩ (.output markup :: tokens) w out →
      ∃ w' node, w = Remainder.cons (.output markup) w'
        ∧ (Item.output markup).node? fs depth = some node := by
    intro w out h
    obtain ⟨item, w', node, more, rfl, hnode, htokens⟩ := h.exists_cons_of_not_tag (by simp)
    cases item with
    | output s =>
      cases htokens
      exact ⟨w', node, rfl, hnode⟩
    | text | tag | inclusion | verbatim | block => cases htokens
  cases hparse : Pipeline.parse markup with
  | error e =>
    refine .of_error fun w out h => ?_
    obtain ⟨w', node, -, hnode⟩ := hitem w out h
    rw [Item.node?, hparse] at hnode
    cases hnode
  | ok pipeline =>
    have hnode : (Item.output markup).node? fs depth = some (.output pipeline) := by
      rw [Item.node?, hparse]
      rfl
    refine .of_item rfl hnode fun w out h => ?_
    obtain ⟨w', node, hw, -⟩ := hitem w out h
    exact ⟨w', hw⟩

/-! ### Verbatim bodies -/

/-- In a verbatim body, only the rest of it is accepted. -/
theorem Accepts.exists_verbatim {v : Verbatim} {w out}
    (h : Accepts fs depth ⟨before, frames, some v⟩ tokens w out) :
    ∃ body closing w', w = .verbatim body closing w' := by
  obtain ⟨-, h⟩ := h
  cases h with
  | verbatim hclosing hclose houter => exact ⟨_, _, _, rfl⟩

theorem unread_verbatim (v : Verbatim) :
    Unread fs depth ⟨before, frames, some v⟩ t tokens
      (.ok (Progress.readVerbatim ⟨before, frames, some v⟩ t v)) := by
  rw [Verbatim.readVerbatim_eq v t rfl]
  cases hend : v.ended? t with
  | some node =>
    obtain ⟨markup, named, rfl, hnamed⟩ := Verbatim.exists_tag_of_ended? hend
    have hname : Progress.tagName? (.tag markup) = some named.1 := by
      rw [Progress.tagName?_tag, hnamed, Option.map_some]
    refine .of_ok (Remainder.verbatim [] markup) fun w out => ?_
    constructor
    · intro h
      obtain ⟨body, closing, w', rfl⟩ := h.exists_verbatim
      obtain ⟨named', node', rest, hnamed', hclose, htokens, ha⟩ := accepts_verbatim_iff.1 h
      cases body with
      | nil =>
        injection htokens with ht htokens
        injection ht with ht
        subst ht htokens
        rw [hnamed] at hnamed'
        cases hnamed'
        rw [Verbatim.close?_nil v hname, hend] at hclose
        cases hclose
        exact ⟨w', rfl, ha⟩
      | cons t' body =>
        -- the body would have ended at this tag
        injection htokens with ht htokens
        subst ht
        rw [Verbatim.close?_cons, hend] at hclose
        cases hclose
    · rintro ⟨w', rfl, ha⟩
      refine accepts_verbatim_iff.2 ⟨named, node, tokens, hnamed, ?_, rfl, ha⟩
      rw [Verbatim.close?_nil v hname, hend]
  | none =>
    refine .of_ok (fun w => match w with
      | .verbatim body closing outer => .verbatim (t :: body) closing outer
      | w => w) fun w out => ?_
    constructor
    · intro h
      obtain ⟨body, closing, w', rfl⟩ := h.exists_verbatim
      obtain ⟨named, node, rest, hnamed, hclose, htokens, ha⟩ := accepts_verbatim_iff.1 h
      cases body with
      | nil =>
        injection htokens with ht htokens
        subst ht
        have hname : Progress.tagName? (.tag closing) = some named.1 := by
          rw [Progress.tagName?_tag, hnamed, Option.map_some]
        rw [Verbatim.close?_nil v hname, hend] at hclose
        cases hclose
      | cons t' body =>
        injection htokens with ht htokens
        subst ht
        rw [Verbatim.close?_cons, hend] at hclose
        exact ⟨.verbatim body closing w', rfl,
          accepts_verbatim_iff.2 ⟨named, node, rest, hnamed, hclose, htokens, ha⟩⟩
    · rintro ⟨w', rfl, h⟩
      obtain ⟨body, closing, w', rfl⟩ := h.exists_verbatim
      obtain ⟨named, node, rest, hnamed, hclose, rfl, ha⟩ := accepts_verbatim_iff.1 h
      refine accepts_verbatim_iff.2 ⟨named, node, rest, hnamed, ?_, rfl, ha⟩
      rw [Verbatim.close?_cons, hend]
      exact hclose

/-! ### Opening tags -/

/-- In an open block, bodies of it and its end are accepted. -/
theorem Accepts.exists_block {block : Block} {around : List Node} {w out}
    (h : Accepts fs depth ⟨before, ⟨block, around⟩ :: frames, none⟩ tokens w out) :
    ∃ body parts closing w', w = .block body parts closing w' := by
  obtain ⟨-, h⟩ := h
  cases h with
  | block hitems hparts hclosing hclose houter => exact ⟨_, _, _, _, rfl⟩

variable {load : String → Except Error (List Node)} {name rest markup : String}

/-- A tag that is a node by itself. -/
theorem unread_node (hload : Loads fs depth load)
    (hm : NamedTag.ofMarkup? markup = some (name, rest)) {tag : BuiltinTag} {node : Node}
    (htag : BuiltinTag.ofName? name = some tag)
    (hopen : Block.openBuiltin load tag rest = .ok (.node node))
    (hfront : ∀ w out, Accepts fs depth ⟨before, frames, none⟩ (.tag markup :: tokens) w out →
      ∃ item w', w = Remainder.cons item w') :
    Unread fs depth ⟨before, frames, none⟩ (.tag markup) tokens
      (.ok ⟨before ++ [node], frames, none⟩) := by
  -- the one item that the tag stands for
  obtain ⟨item, htokens, hnode, honly⟩ : ∃ item : Item, item.tokens = [.tag markup]
      ∧ item.node? fs depth = some node
      ∧ ∀ (other : Item) node' more, other.node? fs depth = some node' →
        Token.tag markup :: tokens = other.tokens ++ more → other = item := by
    have hstart : ∀ (other : Item) node' more, other.node? fs depth = some node' →
        Token.tag markup :: tokens = other.tokens ++ more →
        (other = .tag markup ∧ tag ≠ .inclusion)
        ∨ (tag = .inclusion ∧ ∃ included header body, other = .inclusion markup included
          ∧ Inclusion.parse rest = .ok header
          ∧ Included fs depth header.template included body) := by
      intro other node' more hother hmore
      rcases item_of_start hload hm htag hopen hother hmore with
        ⟨-, hitem, hne⟩ | ⟨-, heq, hitem⟩ | ⟨_, _, _, _, h, -⟩ | ⟨_, _, _, h, -⟩
      · exact .inl ⟨hitem, hne⟩
      · exact .inr ⟨heq, hitem⟩
      · cases h
      · cases h
    by_cases hinclusion : tag = .inclusion
    · subst hinclusion
      obtain ⟨header, hheader, hinclude⟩ := bind_eq_ok_iff.1 hopen
      obtain ⟨body, hbody, hnode⟩ := bind_eq_ok_iff.1 hinclude
      cases hnode
      -- the tag does not say what is included, but there is one such document only
      obtain ⟨included, hincluded⟩ := (hload.ok_iff _ _).1 hbody
      refine ⟨.inclusion markup included, rfl,
        (node?_inclusion_iff hm).2 ⟨htag, header, body, hheader, hincluded, rfl⟩, ?_⟩
      intro other node' more hother hmore
      rcases hstart other node' more hother hmore with ⟨-, hne⟩ | ⟨-, included', header', body',
        rfl, hheader', hincluded'⟩
      · exact (hne rfl).elim
      · rw [hheader] at hheader'
        cases hheader'
        rw [hload.unique hincluded hincluded']
    · refine ⟨.tag markup, rfl, (node?_tag_iff load hm).2 ⟨tag, htag, hinclusion, hopen⟩, ?_⟩
      intro other node' more hother hmore
      rcases hstart other node' more hother hmore with ⟨hitem, -⟩ | ⟨h, -⟩
      · exact hitem
      · exact (hinclusion h).elim
  refine .of_item htokens hnode fun w out h => ?_
  obtain ⟨other, w', rfl⟩ := hfront w out h
  obtain ⟨node', more, hother, hmore, -⟩ := accepts_cons_iff.1 h
  exact ⟨w', by rw [honly other node' more hother hmore]⟩

/-- A tag that opens a block. -/
theorem unread_block (hload : Loads fs depth load)
    (hm : NamedTag.ofMarkup? markup = some (name, rest)) {tag : BuiltinTag} {block : Block}
    (htag : BuiltinTag.ofName? name = some tag)
    (hopen : Block.openBuiltin load tag rest = .ok (.block block))
    (hfront : ∀ w out, Accepts fs depth ⟨before, frames, none⟩ (.tag markup :: tokens) w out →
      ∃ item w', w = Remainder.cons item w') :
    Unread fs depth ⟨before, frames, none⟩ (.tag markup) tokens
      (.ok ⟨[], ⟨block, before⟩ :: frames, none⟩) := by
  refine .of_ok (fun w => match w with
    | .block body parts closing outer => .cons (.block markup body parts closing) outer
    | w => w) fun w out => ?_
  constructor
  · intro h
    obtain ⟨item, w', rfl⟩ := hfront w out h
    obtain ⟨node, more, hnode, hmore, ha⟩ := accepts_cons_iff.1 h
    rcases item_of_start hload hm htag hopen hnode hmore with
      ⟨h, -⟩ | ⟨h, -⟩ | ⟨_, body, parts, closing, -, rfl⟩ | ⟨_, _, _, h, -⟩
    · cases h
    · cases h
    · obtain ⟨nodes, nexts, named, hnodes, hnexts, hclosing, hclose⟩ :=
        (node?_block_iff_of_start hm htag hopen).1 hnode
      -- the rules for the item are what the open block demands
      refine ⟨.block body parts closing w', rfl, accepts_block_iff.2
        ⟨nodes, nexts, named, node, more, hnodes, hnexts, hclosing, hclose, ?_, ha⟩⟩
      injection hmore with _ hmore
      rw [hmore]
      simp only [List.append_assoc, List.cons_append, List.nil_append, List.append_eq]
    · cases h
  · rintro ⟨w', rfl, h⟩
    obtain ⟨body, parts, closing, outer, rfl⟩ := h.exists_block
    obtain ⟨nodes, nexts, named, node, more, hnodes, hnexts, hclosing, hclose, rfl, ha⟩ :=
      accepts_block_iff.1 h
    refine accepts_cons_iff.2 ⟨node, more, (node?_block_iff_of_start hm htag hopen).2
      ⟨nodes, nexts, named, hnodes, hnexts, hclosing, hclose⟩, ?_, ha⟩
    simp only [Item.tokens, List.append_assoc, List.cons_append, List.nil_append]

/-- A tag that starts a verbatim body. -/
theorem unread_start_verbatim (hload : Loads fs depth load)
    (hm : NamedTag.ofMarkup? markup = some (name, rest)) {tag : BuiltinTag} {start : Block.Start}
    {v : Verbatim} (htag : BuiltinTag.ofName? name = some tag)
    (hopen : Block.openBuiltin load tag rest = .ok start) (hv : start.verbatim? = some v)
    (hfront : ∀ w out, Accepts fs depth ⟨before, frames, none⟩ (.tag markup :: tokens) w out →
      ∃ item w', w = Remainder.cons item w') :
    Unread fs depth ⟨before, frames, none⟩ (.tag markup) tokens
      (.ok ⟨before, frames, some v⟩) := by
  refine .of_ok (fun w => match w with
    | .verbatim body closing outer => .cons (.verbatim markup body closing) outer
    | w => w) fun w out => ?_
  constructor
  · intro h
    obtain ⟨item, w', rfl⟩ := hfront w out h
    obtain ⟨node, more, hnode, hmore, ha⟩ := accepts_cons_iff.1 h
    rcases item_of_start hload hm htag hopen hnode hmore with
      ⟨rfl, -⟩ | ⟨rfl, -⟩ | ⟨_, _, _, _, rfl, -⟩ | ⟨_, body, closing, -, rfl⟩
    · cases hv
    · cases hv
    · cases hv
    · obtain ⟨named, hclosing, hclose⟩ :=
        (node?_verbatim_iff_of_start hm htag hopen hv).1 hnode
      refine ⟨.verbatim body closing w', rfl, accepts_verbatim_iff.2
        ⟨named, node, more, hclosing, hclose, ?_, ha⟩⟩
      injection hmore with _ hmore
      rw [hmore]
      simp only [List.append_assoc, List.cons_append, List.nil_append, List.append_eq]
  · rintro ⟨w', rfl, h⟩
    obtain ⟨body, closing, outer, rfl⟩ := h.exists_verbatim
    obtain ⟨named, node, more, hclosing, hclose, rfl, ha⟩ := accepts_verbatim_iff.1 h
    refine accepts_cons_iff.2 ⟨node, more, (node?_verbatim_iff_of_start hm htag hopen hv).2
      ⟨named, hclosing, hclose⟩, ?_, ha⟩
    simp only [Item.tokens, List.append_assoc, List.cons_append, List.nil_append]

/-- A tag that is no delimiter. -/
theorem unread_openTag (hload : Loads fs depth load)
    (hm : NamedTag.ofMarkup? markup = some (name, rest))
    (hfront : ∀ w out, Accepts fs depth ⟨before, frames, none⟩ (.tag markup :: tokens) w out →
      ∃ item w', w = Remainder.cons item w') :
    Unread fs depth ⟨before, frames, none⟩ (.tag markup) tokens
      (Progress.openTag ⟨[], load⟩ ⟨before, frames, none⟩ name rest markup) := by
  -- without a built-in tag that starts something there is no item
  have hnone : (∀ tag start, BuiltinTag.ofName? name = some tag →
      Block.openBuiltin load tag rest ≠ .ok start) → ∀ w out,
      ¬ Accepts fs depth ⟨before, frames, none⟩ (.tag markup :: tokens) w out := by
    intro hne w out h
    obtain ⟨item, w', rfl⟩ := hfront w out h
    obtain ⟨node, more, hnode, hmore, -⟩ := accepts_cons_iff.1 h
    obtain ⟨tag, start, htag, hopen, -⟩ := start_of_node? hload hm hnode hmore
    exact hne tag start htag hopen
  rw [Progress.openTag]
  cases htag : BuiltinTag.ofName? name with
  | none =>
    refine .of_error (hnone fun tag start htag' => ?_)
    rw [htag] at htag'
    cases htag'
  | some tag =>
    cases hopen : Block.openBuiltin load tag rest with
    | error e =>
      simp only [hopen, error_map]
      refine .of_error (hnone fun tag' start htag' => ?_)
      rw [htag] at htag'
      cases htag'
      rw [hopen]
      simp
    | ok start =>
      simp only [hopen, ok_map]
      cases start with
      | node node => exact unread_node hload hm htag hopen hfront
      | block block => exact unread_block hload hm htag hopen hfront
      | raw => exact unread_start_verbatim hload hm htag hopen rfl hfront
      | comment => exact unread_start_verbatim hload hm htag hopen rfl hfront

/-! ### Delimiters -/

variable {block : Block} {around : List Node}

/-- A tag that is a delimiter of the innermost block begins no item: the tags that do are built-in
ones. -/
theorem Accepts.exists_block_of_delimiter (hload : Loads fs depth load) {step w out}
    (hm : NamedTag.ofMarkup? markup = some (name, rest))
    (hstep : block.delimit? name rest before = some step)
    (h : Accepts fs depth ⟨before, ⟨block, around⟩ :: frames, none⟩ (.tag markup :: tokens) w out) :
    ∃ parts closing w', w = .block [] parts closing w' := by
  rcases h.cons_or_delimiter with ⟨item, w', rfl⟩ | ⟨-, -, -, -, parts, closing, w', -, -, rfl⟩
  · obtain ⟨node, more, hnode, htokens, -⟩ := accepts_cons_iff.1 h
    obtain ⟨tag, -, htag, -⟩ := start_of_node? hload hm hnode htokens
    rw [Block.delimit?_builtin block rest before htag] at hstep
    cases hstep
  · exact ⟨parts, closing, w', rfl⟩

/-- A delimiter of the innermost block. -/
theorem unread_delimiter (hload : Loads fs depth load)
    (hm : NamedTag.ofMarkup? markup = some (name, rest)) {step : Except Error Block.Step}
    (hstep : block.delimit? name rest before = some step) :
    Unread fs depth ⟨before, ⟨block, around⟩ :: frames, none⟩ (.tag markup) tokens
      (step.map fun
        | .next block => ⟨[], ⟨block, around⟩ :: frames, none⟩
        | .done node => ⟨around ++ [node], frames, none⟩) := by
  -- what the delimiter does to the block is what the remainder says
  have hagree : ∀ named step', NamedTag.ofMarkup? markup = some named →
      block.delimit? named.1 named.2 before = some step' → step' = step := by
    intro named step' hnamed hstep'
    rw [hm] at hnamed
    cases hnamed
    rw [hstep] at hstep'
    cases hstep'
    rfl
  have hcases : ∀ w out,
      Accepts fs depth ⟨before, ⟨block, around⟩ :: frames, none⟩ (.tag markup :: tokens) w out →
      (∃ part parts closing w' block', w = .block [] (part :: parts) closing w'
        ∧ step = .ok (.next block') ∧ part.1 = markup
        ∧ Accepts fs depth ⟨[], ⟨block', around⟩ :: frames, none⟩ tokens
          (.block part.2 parts closing w') out)
      ∨ ∃ w' node, w = .block [] [] markup w' ∧ step = .ok (.done node)
        ∧ Accepts fs depth ⟨around ++ [node], frames, none⟩ tokens w' out := by
    intro w out h
    obtain ⟨parts, closing, w', rfl⟩ := h.exists_block_of_delimiter hload hm hstep
    cases parts with
    | nil =>
      obtain ⟨rfl, named, node, hnamed, hdone, ha⟩ := accepts_end_iff.1 h
      exact .inr ⟨w', node, rfl, (hagree named _ hnamed hdone).symm, ha⟩
    | cons part parts =>
      obtain ⟨hpart, named, block', hnamed, hnext, ha⟩ := accepts_part_iff.1 h
      exact .inl ⟨part, parts, closing, w', block', rfl, (hagree named _ hnamed hnext).symm, hpart,
        ha⟩
  rcases step with e | block' | node
  · refine .of_error fun w out h => ?_
    rcases hcases w out h with ⟨_, _, _, _, _, _, h, -⟩ | ⟨_, _, _, h, -⟩
    · cases h
    · cases h
  · refine .of_ok (fun w => match w with
      | .block items parts closing outer => .block [] ((markup, items) :: parts) closing outer
      | w => w) fun w out => ?_
    constructor
    · intro h
      rcases hcases w out h with
        ⟨part, parts, closing, w', block'', rfl, hnext, rfl, ha⟩ | ⟨_, _, _, h, -⟩
      · cases hnext
        exact ⟨_, rfl, ha⟩
      · cases h
    · rintro ⟨w', rfl, h⟩
      obtain ⟨body, parts, closing, outer, rfl⟩ := h.exists_block
      exact accepts_part_iff.2 ⟨rfl, (name, rest), block', hm, hstep, h⟩
  · refine .of_ok (Remainder.block [] [] markup) fun w out => ?_
    constructor
    · intro h
      rcases hcases w out h with ⟨_, _, _, _, _, _, h, -⟩ | ⟨w', node', rfl, hdone, ha⟩
      · cases h
      · cases hdone
        exact ⟨w', rfl, ha⟩
    · rintro ⟨w', rfl, h⟩
      exact accepts_end_iff.2 ⟨rfl, (name, rest), node, hm, hstep, h⟩

theorem unread_readTag (hload : Loads fs depth load)
    (hm : NamedTag.ofMarkup? markup = some (name, rest)) :
    Unread fs depth ⟨before, frames, none⟩ (.tag markup) tokens
      (Progress.readTag ⟨[], load⟩ ⟨before, frames, none⟩ name rest markup) := by
  cases frames with
  | nil =>
    refine unread_openTag hload hm fun w out h => ?_
    rcases h.cons_or_delimiter with hcons | ⟨_, _, _, _, _, _, _, h, -⟩
    · exact hcons
    · cases h
  | cons frame frames =>
    obtain ⟨block, around⟩ := frame
    rw [Progress.readTag]
    simp only
    cases hstep : block.delimit? name rest before with
    | none =>
      refine unread_openTag hload hm fun w out h => ?_
      rcases h.cons_or_delimiter with hcons | ⟨_, _, _, _, parts, closing, w', _, -, rfl⟩
      · exact hcons
      · -- a delimiter would do something to the block
        cases parts with
        | nil =>
          obtain ⟨-, named, node, hnamed, hdelimit, -⟩ := accepts_end_iff.1 h
          rw [hm] at hnamed
          cases hnamed
          rw [hstep] at hdelimit
          cases hdelimit
        | cons part parts =>
          obtain ⟨-, named, block', hnamed, hdelimit, -⟩ := accepts_part_iff.1 h
          rw [hm] at hnamed
          cases hnamed
          rw [hstep] at hdelimit
          cases hdelimit
    | some step =>
      have hunread : Unread fs depth ⟨before, ⟨block, around⟩ :: frames, none⟩ (.tag markup) tokens
          (step.map fun
            | .next block => ⟨[], ⟨block, around⟩ :: frames, none⟩
            | .done node => ⟨around ++ [node], frames, none⟩) := unread_delimiter hload hm hstep
      cases step with
      | error e => exact hunread
      | ok step => cases step <;> exact hunread

end

/-! ### Any token -/

variable {load : String → Except Error (List Node)}

/-- A token is read in one way: what is accepted in front of it is what is accepted behind it, with
the token put back. -/
theorem unread_read (hload : Loads fs depth load) (p : Progress) (t : Token)
    (tokens : List Token) : Unread fs depth p t tokens (p.read ⟨[], load⟩ t tokens) := by
  obtain ⟨before, frames, verbatim⟩ := p
  cases verbatim with
  | some v => exact unread_verbatim v
  | none =>
    cases t with
    | literal text => exact unread_literal text
    | output markup =>
      rw [Progress.read]
      exact unread_output markup
    | tag markup =>
      rw [Progress.read]
      cases hsplit : Markup.split? markup.toList with
      | none =>
        refine .of_error fun w out h => ?_
        obtain ⟨named, hnamed⟩ := h.exists_named
        rw [NamedTag.ofMarkup?, hsplit] at hnamed
        cases hnamed
      | some parts =>
        have hm : NamedTag.ofMarkup? markup =
            some (String.ofList parts.1, String.ofList parts.2) := by
          rw [NamedTag.ofMarkup?, hsplit]
          rfl
        exact unread_readTag hload hm

/-- A list of tokens makes a tree where it is a remainder that completes what has been read. -/
theorem readAll_finish_eq_ok_iff (hload : Loads fs depth load) (p : Progress)
    (tokens : List Token) (out : List Node) :
    (Progress.readAll ⟨[], load⟩ p tokens >>= Progress.finish) = .ok out ↔
      ∃ w, Accepts fs depth p tokens w out := by
  induction tokens generalizing p with
  | nil =>
    rw [Progress.readAll, ok_bind]
    constructor
    · intro h
      exact ⟨.document [], accepts_nil_iff.2 ⟨rfl, h⟩⟩
    · rintro ⟨w, h⟩
      exact (accepts_nil_iff.1 h).2
  | cons t tokens ih =>
    obtain ⟨put, hput⟩ := unread_read hload p t tokens
    rw [Progress.readAll]
    simp only [bind_assoc, bind_eq_ok_iff, ih, hput]
    constructor
    · rintro ⟨p', hp, w', h⟩
      exact ⟨put w', p', w', hp, rfl, h⟩
    · rintro ⟨w, p', w', hp, -, h⟩
      exact ⟨p', hp, w', h⟩

/-- A list of tokens is one remainder only. -/
theorem Accepts.unique (hload : Loads fs depth load) {p : Progress} {tokens : List Token}
    {w w' : Remainder} {out out' : List Node} (h : Accepts fs depth p tokens w out)
    (h' : Accepts fs depth p tokens w' out') : w = w' := by
  induction tokens generalizing p w w' with
  | nil => rw [(accepts_nil_iff.1 h).1, (accepts_nil_iff.1 h').1]
  | cons t tokens ih =>
    obtain ⟨put, hput⟩ := unread_read hload p t tokens
    -- both are a remainder behind the token with the token put back
    obtain ⟨q, v, hq, rfl, hv⟩ := (hput w out).1 h
    obtain ⟨q', v', hq', rfl, hv'⟩ := (hput w' out').1 h'
    rw [hq] at hq'
    cases hq'
    rw [ih hv hv']

/-! ### Documents -/

section

variable {source : String} {nodes nodes' : List Node} {items items' : List Item}

theorem accepts_document_iff {tokens : List Token} {w : Remainder} :
    Accepts fs depth {} tokens w nodes ↔
      ∃ items, w = .document items ∧ tokensAll items = tokens
        ∧ nodes? fs depth items = some nodes := by
  constructor
  · rintro ⟨rfl, h⟩
    cases h with
    | document hitems => exact ⟨_, rfl, rfl, hitems⟩
  · rintro ⟨items, rfl, rfl, hitems⟩
    have hdone : Completes fs depth ⟨[], [], none⟩ (.document items) ([] ++ nodes) :=
      .document hitems
    exact ⟨rfl, hdone⟩

/-- Tokens compile to the tree of a document. -/
theorem parseTokens_eq_ok_iff (hload : Loads fs depth load) (tokens : List Token) :
    Template.parseTokens ⟨[], load⟩ tokens = .ok nodes ↔
      ∃ items, tokensAll items = tokens ∧ nodes? fs depth items = some nodes := by
  rw [Template.parseTokens, readAll_finish_eq_ok_iff hload]
  constructor
  · rintro ⟨w, h⟩
    obtain ⟨items, -, hitems⟩ := accepts_document_iff.1 h
    exact ⟨items, hitems⟩
  · rintro ⟨items, hitems⟩
    exact ⟨.document items, accepts_document_iff.2 ⟨items, rfl, hitems⟩⟩

/-- Tokens are one document only. -/
theorem document_unique (hload : Loads fs depth load) (htokens : tokensAll items = tokensAll items')
    (h : nodes? fs depth items = some nodes) (h' : nodes? fs depth items' = some nodes') :
    items = items' := by
  have heq := Accepts.unique hload (accepts_document_iff.2 ⟨items, rfl, htokens, h⟩)
    (accepts_document_iff.2 ⟨items', rfl, rfl, h'⟩)
  injection heq

end

namespace Engine

variable (engine : Engine)

/-- The tree of an included template, when includes may be nested `depth` deep. -/
def included : (depth : Nat) → (name : String) → Except Error (List Node)
  | 0, name => .error (.includeDepthExceeded name engine.maxIncludeDepth)
  | depth + 1, name => do engine.compile depth (← engine.fileSystem.read name)

theorem compile_eq (depth : Nat) (source : String) :
    engine.compile depth source =
      Template.parseTokens ⟨engine.tags, engine.included depth⟩ (tokenize source) := by
  cases depth <;> rfl

/-- Without registered tags, an engine includes what the grammar says. The induction is on the
depth that is left. -/
theorem loads_included (htags : engine.tags = []) (depth : Nat) :
    Loads engine.fileSystem depth (engine.included depth) := by
  induction depth with
  | zero =>
    constructor
    · intro name body
      constructor
      · intro h
        cases h
      · rintro ⟨items, h⟩
        cases h
    · intro name items items' body body' h
      cases h
  | succ depth ih =>
    constructor
    · intro name body
      rw [included, bind_eq_ok_iff]
      simp only [compile_eq, htags, parseTokens_eq_ok_iff ih, Included]
      constructor
      · rintro ⟨source, hsource, items, hitems⟩
        exact ⟨items, source, hsource, hitems⟩
      · rintro ⟨items, source, hsource, hitems⟩
        exact ⟨source, hsource, items, hitems⟩
    · rintro name items items' body body' ⟨source, hsource, htokens, h⟩
        ⟨source', hsource', htokens', h'⟩
      rw [hsource] at hsource'
      cases hsource'
      exact document_unique ih (htokens.trans htokens'.symm) h h'

/-- Without registered tags, a source compiles to a tree where its tokens are those of a document
with this tree. Every token stands in one place of that document, and the source is no other
document. -/
theorem parse_eq_ok_iff (engine : Engine) (source : String) (template : Template) :
    { engine with tags := [] }.parse source = .ok template ↔
      template.name = none
        ∧ ∃ document : List Item, tokensAll document = tokenize source
          ∧ nodes? engine.fileSystem engine.maxIncludeDepth document = some template.nodes
          ∧ ∀ other : List Item, tokensAll other = tokenize source →
            (nodes? engine.fileSystem engine.maxIncludeDepth other).isSome →
            other = document := by
  have hload : Loads engine.fileSystem engine.maxIncludeDepth
      ({ engine with tags := [] }.included engine.maxIncludeDepth) :=
    loads_included { engine with tags := [] } rfl engine.maxIncludeDepth
  obtain ⟨name, nodes⟩ := template
  rw [Engine.parse, compile_eq]
  constructor
  · intro h
    obtain ⟨tree, htree, heq⟩ := bind_eq_ok_iff.1 h
    cases heq
    obtain ⟨document, htokens, hnodes⟩ := (parseTokens_eq_ok_iff hload _).1 htree
    refine ⟨rfl, document, htokens, hnodes, fun other hother hsome => ?_⟩
    obtain ⟨nodes', hnodes'⟩ := Option.isSome_iff_exists.1 hsome
    exact document_unique hload (hother.trans htokens.symm) hnodes' hnodes
  · rintro ⟨rfl, document, htokens, hnodes, -⟩
    rw [(parseTokens_eq_ok_iff hload _).2 ⟨document, htokens, hnodes⟩]
    rfl

end Engine

end Liquid
