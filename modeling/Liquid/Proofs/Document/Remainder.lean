import Liquid.Proofs.Document.Block
import Liquid.Proofs.Document.Verbatim

/-!
# What is still to come

The parser reads a document from front to back. Behind each token, what remains of a derivation is
the end of the body that is being read, and the ends of all bodies and blocks around that.

- `Remainder`: such an end of a derivation.
- `Completes`: the tree that it makes of what has been read.
- `Accepts`: the same for tokens that are to be read.
- `accepts_cons_iff`, `accepts_part_iff`, `accepts_end_iff`, `accepts_verbatim_iff`: what stands in
  front of a remainder.
- `start_of_node?`: the tag that an item begins with starts what the item is.
-/

namespace Liquid

open Item

/-- The end of a derivation. -/
inductive Remainder where
  /-- No block is open, and items follow. -/
  | document (items : List Item)
  /-- Items of a block that is open, further bodies of it each with the tag in front, the tag that
  ends it, and what comes behind it. -/
  | block (items : List Item) (parts : List (String × List Item)) (closing : String)
    (outer : Remainder)
  /-- Tokens of a verbatim body, the tag that ends it, and what comes behind it. -/
  | verbatim (body : List Token) (closing : String) (outer : Remainder)

namespace Remainder

/-- The tokens of a remainder. -/
def tokens : Remainder → List Token
  | document items => tokensAll items
  | block items parts closing outer =>
    tokensAll items ++ (tokensParts parts ++ .tag closing :: outer.tokens)
  | verbatim body closing outer => body ++ .tag closing :: outer.tokens

/-- A remainder with an item in front. -/
def cons (item : Item) : Remainder → Remainder
  | document items => document (item :: items)
  | block items parts closing outer => block (item :: items) parts closing outer
  | verbatim body closing outer => verbatim body closing outer

end Remainder

section

variable (fs : FileSystem) (depth : Nat)

/-- What has been read makes the tree `out` when a remainder follows. -/
inductive Completes : Progress → Remainder → List Node → Prop where
  | document {before items nodes} (hitems : nodes? fs depth items = some nodes) :
    Completes ⟨before, [], none⟩ (.document items) (before ++ nodes)
  | block {before around frames block items nodes parts nexts closing named node outer out}
    (hitems : nodes? fs depth items = some nodes)
    (hparts : partsNodes? fs depth parts = some nexts)
    (hclosing : NamedTag.ofMarkup? closing = some named)
    (hclose : Block.close? block (before ++ nodes) named nexts = some node)
    (houter : Completes ⟨around ++ [node], frames, none⟩ outer out) :
    Completes ⟨before, ⟨block, around⟩ :: frames, none⟩ (.block items parts closing outer) out
  | verbatim {before frames v body closing named node outer out}
    (hclosing : NamedTag.ofMarkup? closing = some named)
    (hclose : Verbatim.close? v body named.1 = some node)
    (houter : Completes ⟨before ++ [node], frames, none⟩ outer out) :
    Completes ⟨before, frames, some v⟩ (.verbatim body closing outer) out

/-- What has been read makes the tree `out` when `tokens` follow, taken as the remainder `w`. -/
def Accepts (p : Progress) (tokens : List Token) (w : Remainder) (out : List Node) : Prop :=
  w.tokens = tokens ∧ Completes fs depth p w out

variable {fs depth}

/-! ### The first item of a remainder -/

theorem nodes?_cons_eq_some_iff {item : Item} {rest : List Item} {nodes : List Node} :
    nodes? fs depth (item :: rest) = some nodes ↔
      ∃ node more, item.node? fs depth = some node ∧ nodes? fs depth rest = some more
        ∧ nodes = node :: more := by
  rw [nodes?]
  simp [Option.bind_eq_some_iff, @eq_comm _ nodes]

/-- An item in front of a remainder is one node more that has been read. -/
theorem accepts_cons_iff {before frames tokens item w out} :
    Accepts fs depth ⟨before, frames, none⟩ tokens (w.cons item) out ↔
      ∃ node rest, item.node? fs depth = some node ∧ tokens = item.tokens ++ rest
        ∧ Accepts fs depth ⟨before ++ [node], frames, none⟩ rest w out := by
  constructor
  · rintro ⟨rfl, h⟩
    cases w with
    | document items =>
      rw [Remainder.cons] at h
      cases h with
      | document hitems =>
        obtain ⟨node, more, hnode, hmore, rfl⟩ := nodes?_cons_eq_some_iff.1 hitems
        refine ⟨node, tokensAll items, hnode, rfl, rfl, ?_⟩
        have hdone : Completes fs depth ⟨before ++ [node], [], none⟩ (.document items)
            (before ++ [node] ++ more) := .document hmore
        rwa [List.append_assoc, List.singleton_append] at hdone
    | block items parts closing outer =>
      rw [Remainder.cons] at h
      cases h with
      | block hitems hparts hclosing hclose houter =>
        obtain ⟨node, more, hnode, hmore, rfl⟩ := nodes?_cons_eq_some_iff.1 hitems
        -- the block closes over the same nodes, one more of which has been read
        refine ⟨node, _, hnode, ?_, rfl, ?_⟩
        · rw [Remainder.cons, Remainder.tokens, tokensAll, List.append_assoc]
          rfl
        · rw [← List.singleton_append, ← List.append_assoc] at hclose
          exact .block hmore hparts hclosing hclose houter
    | verbatim body closing outer =>
      rw [Remainder.cons] at h
      cases h
  · rintro ⟨node, rest, hnode, rfl, rfl, h⟩
    cases h with
    | document hitems =>
      refine ⟨rfl, ?_⟩
      rw [List.append_assoc, List.singleton_append]
      exact .document (nodes?_cons_eq_some_iff.2 ⟨node, _, hnode, hitems, rfl⟩)
    | block hitems hparts hclosing hclose houter =>
      refine ⟨?_, ?_⟩
      · rw [Remainder.cons, Remainder.tokens, tokensAll, List.append_assoc]
        rfl
      · rw [List.append_assoc, List.singleton_append] at hclose
        exact .block (nodes?_cons_eq_some_iff.2 ⟨node, _, hnode, hitems, rfl⟩) hparts hclosing
          hclose houter

/-- Behind the opening tag of a block stand its bodies and its end. -/
theorem accepts_block_iff {around frames block tokens body parts closing w out} :
    Accepts fs depth ⟨[], ⟨block, around⟩ :: frames, none⟩ tokens (.block body parts closing w)
        out ↔
      ∃ nodes nexts named node rest, nodes? fs depth body = some nodes
        ∧ partsNodes? fs depth parts = some nexts ∧ NamedTag.ofMarkup? closing = some named
        ∧ Block.close? block nodes named nexts = some node
        ∧ tokens = tokensAll body ++ (tokensParts parts ++ .tag closing :: rest)
        ∧ Accepts fs depth ⟨around ++ [node], frames, none⟩ rest w out := by
  constructor
  · rintro ⟨rfl, h⟩
    cases h with
    | block hitems hparts hclosing hclose houter =>
      exact ⟨_, _, _, _, _, hitems, hparts, hclosing, hclose, rfl, rfl, houter⟩
  · rintro ⟨nodes, nexts, named, node, rest, hitems, hparts, hclosing, hclose, rfl, rfl, h⟩
    exact ⟨rfl, .block hitems hparts hclosing hclose h⟩

/-- Behind the opening tag of a verbatim block stand its body and its end. -/
theorem accepts_verbatim_iff {before frames v tokens body closing w out} :
    Accepts fs depth ⟨before, frames, some v⟩ tokens (.verbatim body closing w) out ↔
      ∃ named node rest, NamedTag.ofMarkup? closing = some named
        ∧ Verbatim.close? v body named.1 = some node
        ∧ tokens = body ++ .tag closing :: rest
        ∧ Accepts fs depth ⟨before ++ [node], frames, none⟩ rest w out := by
  constructor
  · rintro ⟨rfl, h⟩
    cases h with
    | verbatim hclosing hclose houter => exact ⟨_, _, _, hclosing, hclose, rfl, rfl, houter⟩
  · rintro ⟨named, node, rest, hclosing, hclose, rfl, rfl, h⟩
    exact ⟨rfl, .verbatim hclosing hclose h⟩

/-! ### The delimiters of a remainder -/

theorem partsNodes?_cons_eq_some_iff {part : String × List Item} {rest : List (String × List Item)}
    {nexts : List (NamedTag × List Node)} :
    partsNodes? fs depth (part :: rest) = some nexts ↔
      ∃ named body more, NamedTag.ofMarkup? part.1 = some named
        ∧ nodes? fs depth part.2 = some body ∧ partsNodes? fs depth rest = some more
        ∧ nexts = (named, body) :: more := by
  rw [partsNodes?]
  simp [Option.bind_eq_some_iff, @eq_comm _ nexts]

/-- A tag in front of a further body goes on with the block. -/
theorem accepts_part_iff {before block around frames markup tokens part parts closing w out} :
    Accepts fs depth ⟨before, ⟨block, around⟩ :: frames, none⟩ (.tag markup :: tokens)
        (.block [] (part :: parts) closing w) out ↔
      part.1 = markup ∧ ∃ named block', NamedTag.ofMarkup? markup = some named
        ∧ Block.delimit? block named.1 named.2 before = some (.ok (.next block'))
        ∧ Accepts fs depth ⟨[], ⟨block', around⟩ :: frames, none⟩ tokens
          (.block part.2 parts closing w) out := by
  constructor
  · rintro ⟨htokens, h⟩
    cases h with
    | block hitems hparts hclosing hclose houter =>
      cases hitems
      -- the first delimiter that the block closes with is the tag in front
      obtain ⟨named, body, more, hnamed, hbody, hmore, rfl⟩ := partsNodes?_cons_eq_some_iff.1 hparts
      obtain ⟨block', hdelimit, hclose⟩ := Block.close?_cons_eq_some_iff.1 hclose
      rw [List.append_nil] at hdelimit
      rw [Remainder.tokens, tokensAll, tokensParts, List.nil_append, List.cons_append] at htokens
      injection htokens with hmarkup htokens
      injection hmarkup with hmarkup
      refine ⟨hmarkup, named, block', hmarkup ▸ hnamed, hdelimit, ?_, ?_⟩
      · rw [Remainder.tokens, ← htokens, List.append_assoc]
      · exact .block hbody hmore hclosing hclose houter
  · rintro ⟨rfl, named, block', hnamed, hdelimit, rfl, h⟩
    cases h with
    | block hitems hparts hclosing hclose houter =>
      refine ⟨?_, ?_⟩
      · rw [Remainder.tokens, tokensAll, tokensParts, List.nil_append, List.cons_append,
          Remainder.tokens, List.append_assoc]
      · have hnexts := partsNodes?_cons_eq_some_iff.2 ⟨named, _, _, hnamed, hitems, hparts, rfl⟩
        have hitems : nodes? fs depth [] = some [] := rfl
        refine .block hitems hnexts hclosing ?_ houter
        rw [List.append_nil]
        exact Block.close?_cons_eq_some_iff.2 ⟨block', hdelimit, hclose⟩

/-- The tag behind the last body ends the block. -/
theorem accepts_end_iff {before block around frames markup tokens closing w out} :
    Accepts fs depth ⟨before, ⟨block, around⟩ :: frames, none⟩ (.tag markup :: tokens)
        (.block [] [] closing w) out ↔
      closing = markup ∧ ∃ named node, NamedTag.ofMarkup? markup = some named
        ∧ Block.delimit? block named.1 named.2 before = some (.ok (.done node))
        ∧ Accepts fs depth ⟨around ++ [node], frames, none⟩ tokens w out := by
  constructor
  · rintro ⟨htokens, h⟩
    cases h with
    | block hitems hparts hclosing hclose houter =>
      cases hitems
      cases hparts
      rw [List.append_nil] at hclose
      rw [Remainder.tokens, tokensAll, tokensParts, List.nil_append, List.nil_append] at htokens
      injection htokens with hmarkup htokens
      injection hmarkup with hmarkup
      exact ⟨hmarkup, _, _, hmarkup ▸ hclosing, Block.close?_nil_eq_some_iff.1 hclose, htokens,
        houter⟩
  · rintro ⟨rfl, named, node, hnamed, hdelimit, rfl, h⟩
    have hitems : nodes? fs depth [] = some [] := rfl
    refine ⟨rfl, .block hitems rfl hnamed ?_ h⟩
    rw [List.append_nil]
    exact Block.close?_nil_eq_some_iff.2 hdelimit

/-- Where no token follows, nothing may be open. -/
theorem accepts_nil_iff {p w out} :
    Accepts fs depth p [] w out ↔ w = .document [] ∧ p.finish = .ok out := by
  constructor
  · rintro ⟨htokens, h⟩
    cases h with
    | @document before items nodes hitems =>
      cases items with
      | nil =>
        cases hitems
        rw [Progress.finish, List.append_nil]
        exact ⟨rfl, rfl⟩
      | cons item items => cases item <;> cases htokens
    | block =>
      rw [Remainder.tokens, List.append_eq_nil_iff, List.append_eq_nil_iff] at htokens
      cases htokens.2.2
    | verbatim =>
      rw [Remainder.tokens, List.append_eq_nil_iff] at htokens
      cases htokens.2
  · rintro ⟨rfl, h⟩
    obtain ⟨before, frames, verbatim⟩ := p
    cases verbatim with
    | some v => cases v <;> cases h
    | none =>
      cases frames with
      | cons frame frames => cases h
      | nil =>
        cases h
        refine ⟨rfl, ?_⟩
        have hdone : Completes fs depth ⟨before, [], none⟩ (.document []) (before ++ []) :=
          .document rfl
        rwa [List.append_nil] at hdone

/-- Where tokens follow, an item is in front of a remainder, or a delimiter of the open block. -/
theorem Accepts.cons_or_delimiter {before frames t tokens w out}
    (h : Accepts fs depth ⟨before, frames, none⟩ (t :: tokens) w out) :
    (∃ item w', w = Remainder.cons item w')
    ∨ ∃ block around outer markup parts closing w', frames = ⟨block, around⟩ :: outer
      ∧ t = .tag markup ∧ w = .block [] parts closing w' := by
  obtain ⟨htokens, h⟩ := h
  cases h with
  | @document _ items nodes hitems =>
    cases items with
    | nil => cases htokens
    | cons item items => exact .inl ⟨item, .document items, rfl⟩
  | @block _ around outer block items _ parts _ closing _ _ w' =>
    cases items with
    | nil =>
      refine .inr ⟨block, around, outer, ?_⟩
      cases parts with
      | nil =>
        injection htokens with ht
        exact ⟨closing, [], closing, w', rfl, ht.symm, rfl⟩
      | cons part parts =>
        injection htokens with ht
        exact ⟨part.1, part :: parts, closing, w', rfl, ht.symm, rfl⟩
    | cons item items => exact .inl ⟨item, .block items parts closing w', rfl⟩

/-! ### Items that begin with a tag -/

/-- The documents that an included template may be read as, with their trees. -/
def Included (fs : FileSystem) : (depth : Nat) → (name : String) → List Item → List Node → Prop
  | 0, _, _, _ => False
  | depth + 1, name, items, body =>
    ∃ source, fs.read name = .ok source ∧ tokensAll items = tokenize source
      ∧ nodes? fs depth items = some body

/-- Included templates are had from the documents that they can be read as, and they can be read in
one way only. -/
structure Loads (fs : FileSystem) (depth : Nat) (load : String → Except Error (List Node)) :
    Prop where
  ok_iff (name : String) (body : List Node) :
    load name = .ok body ↔ ∃ items, Included fs depth name items body
  unique {name : String} {items items' : List Item} {body body' : List Node}
    (h : Included fs depth name items body) (h' : Included fs depth name items' body') :
    items = items'

/-- The verbatim body that a tag starts, if it starts one. -/
def Block.Start.verbatim? : Block.Start → Option Verbatim
  | .raw => some (.raw "")
  | .comment => some (.comment 1)
  | _ => none

variable {name rest markup : String} {load : String → Except Error (List Node)}

variable (load) in
theorem node?_tag_iff (hm : NamedTag.ofMarkup? markup = some (name, rest)) {node : Node} :
    (Item.tag markup).node? fs depth = some node ↔
      ∃ tag, BuiltinTag.ofName? name = some tag ∧ tag ≠ .inclusion
        ∧ Block.openBuiltin load tag rest = .ok (.node node) := by
  rw [Item.node?, hm]
  simp only [Option.bind_eq_bind, Option.bind_some, leafNode?]
  cases h : BuiltinTag.ofName? name with
  | none => simp
  | some tag =>
    cases tag with
    | assign => simp [Block.openBuiltin, toOption_eq_some_iff, map_eq_ok_iff]
    | cycle => simp [Block.openBuiltin, toOption_eq_some_iff, bind_eq_ok_iff]
    | raw | comment | inclusion => simp [Block.openBuiltin]
    | capture | loop | branch | negatedBranch | case | table =>
      simp [Block.openBuiltin, bind_eq_ok_iff, map_eq_ok_iff]

theorem node?_inclusion_iff (hm : NamedTag.ofMarkup? markup = some (name, rest))
    {included : List Item} {node : Node} :
    (Item.inclusion markup included).node? fs depth = some node ↔
      BuiltinTag.ofName? name = some .inclusion ∧ ∃ header body, Inclusion.parse rest = .ok header
        ∧ Included fs depth header.template included body ∧ node = .inclusion header body := by
  cases depth with
  | zero => simp [Item.node?, Included]
  | succ depth =>
    rw [Item.node?, hm]
    simp only [Option.bind_eq_bind, Option.bind_some, Option.bind_eq_some_iff,
      toOption_eq_some_iff, Included]
    constructor
    · rintro ⟨header, hheader, source, hsource, body, hbody, hnode⟩
      split at hnode
      · next hrule =>
        cases hnode
        exact ⟨hrule.1, header, body, hheader, ⟨source, hsource, hrule.2, hbody⟩, rfl⟩
      · cases hnode
    · rintro ⟨hname, header, body, hheader, ⟨source, hsource, htokens, hbody⟩, rfl⟩
      exact ⟨header, hheader, source, hsource, body, hbody, if_pos ⟨hname, htokens⟩⟩

variable (load) in
theorem node?_verbatim_iff (hm : NamedTag.ofMarkup? markup = some (name, rest))
    {body : List Token} {closing : String} {node : Node} :
    (Item.verbatim markup body closing).node? fs depth = some node ↔
      ∃ tag start v named, BuiltinTag.ofName? name = some tag
        ∧ Block.openBuiltin load tag rest = .ok start ∧ start.verbatim? = some v
        ∧ NamedTag.ofMarkup? closing = some named ∧ v.close? body named.1 = some node := by
  rw [Item.node?, hm]
  simp only [Option.bind_eq_bind, Option.bind_some, Option.bind_eq_some_iff]
  constructor
  · rintro ⟨⟨closingName, behind⟩, hclosing, hnode⟩
    cases htag : BuiltinTag.ofName? name with
    | none => simp [verbatimNode?, htag] at hnode
    | some tag =>
      rcases (Verbatim.verbatimNode?_eq_some_iff load rest htag).1 hnode with
        ⟨hopen, hclose⟩ | ⟨hopen, hclose⟩
      · exact ⟨tag, .raw, .raw "", _, rfl, hopen, rfl, hclosing, hclose⟩
      · exact ⟨tag, .comment, .comment 1, _, rfl, hopen, rfl, hclosing, hclose⟩
  · rintro ⟨tag, start, v, named, htag, hopen, hstart, hclosing, hclose⟩
    refine ⟨named, hclosing, ?_⟩
    rw [Verbatim.verbatimNode?_eq_some_iff load rest htag]
    cases start with
    | raw =>
      cases hstart
      exact .inl ⟨hopen, hclose⟩
    | comment =>
      cases hstart
      exact .inr ⟨hopen, hclose⟩
    | node n => cases hstart
    | block b => cases hstart

variable (load) in
theorem node?_block_iff (hm : NamedTag.ofMarkup? markup = some (name, rest))
    {body : List Item} {parts : List (String × List Item)} {closing : String} {node : Node} :
    (Item.block markup body parts closing).node? fs depth = some node ↔
      ∃ tag block nodes nexts named, BuiltinTag.ofName? name = some tag
        ∧ Block.openBuiltin load tag rest = .ok (.block block)
        ∧ nodes? fs depth body = some nodes ∧ partsNodes? fs depth parts = some nexts
        ∧ NamedTag.ofMarkup? closing = some named ∧ block.close? nodes named nexts = some node := by
  rw [Item.node?, hm]
  simp only [Option.bind_eq_bind, Option.bind_some, Option.bind_eq_some_iff]
  constructor
  · rintro ⟨named, hclosing, nodes, hnodes, nexts, hnexts, hnode⟩
    cases htag : BuiltinTag.ofName? name with
    | none => simp [blockNode?, bodyNode?, htag] at hnode
    | some tag =>
      obtain ⟨block, hopen, hclose⟩ := (Block.blockNode?_eq_some_iff load htag).1 hnode
      exact ⟨tag, block, nodes, nexts, named, rfl, hopen, hnodes, hnexts, hclosing, hclose⟩
  · rintro ⟨tag, block, nodes, nexts, named, htag, hopen, hnodes, hnexts, hclosing, hclose⟩
    refine ⟨named, hclosing, nodes, hnodes, nexts, hnexts, ?_⟩
    exact (Block.blockNode?_eq_some_iff load htag).2 ⟨block, hopen, hclose⟩

/-- The tag that an item begins with is built in, and it starts what the item is. -/
theorem start_of_node? (hload : Loads fs depth load)
    (hm : NamedTag.ofMarkup? markup = some (name, rest)) {item : Item} {node : Node}
    {tokens more : List Token} (hnode : item.node? fs depth = some node)
    (htokens : .tag markup :: tokens = item.tokens ++ more) :
    ∃ tag start, BuiltinTag.ofName? name = some tag
      ∧ Block.openBuiltin load tag rest = .ok start
      ∧ ((start = .node node ∧ item = .tag markup ∧ tag ≠ .inclusion)
        ∨ (start = .node node ∧ tag = .inclusion ∧ ∃ included header body,
          item = .inclusion markup included ∧ Inclusion.parse rest = .ok header
            ∧ Included fs depth header.template included body)
        ∨ (∃ block body parts closing, start = .block block
          ∧ item = .block markup body parts closing)
        ∨ ∃ v body closing, start.verbatim? = some v ∧ item = .verbatim markup body closing) := by
  cases item with
  | text s => cases htokens
  | output s => cases htokens
  | tag s =>
    cases htokens
    obtain ⟨tag, htag, hne, hopen⟩ := (node?_tag_iff load hm).1 hnode
    exact ⟨tag, _, htag, hopen, .inl ⟨rfl, rfl, hne⟩⟩
  | inclusion s included =>
    cases htokens
    obtain ⟨htag, header, body, hheader, hincluded, rfl⟩ := (node?_inclusion_iff hm).1 hnode
    -- what the item includes is what the engine includes
    have hbody := (hload.ok_iff header.template body).2 ⟨included, hincluded⟩
    refine ⟨.inclusion, _, htag, ?_, .inr (.inl ⟨rfl, rfl, included, header, body, rfl, hheader,
      hincluded⟩)⟩
    rw [Block.openBuiltin, hheader, ok_bind, hbody]
    rfl
  | verbatim s body closing =>
    cases htokens
    obtain ⟨tag, start, v, named, htag, hopen, hv, -⟩ := (node?_verbatim_iff load hm).1 hnode
    exact ⟨tag, start, htag, hopen, .inr (.inr (.inr ⟨v, body, closing, hv, rfl⟩))⟩
  | block s body parts closing =>
    cases htokens
    obtain ⟨tag, block, -, -, -, htag, hopen, -⟩ := (node?_block_iff load hm).1 hnode
    exact ⟨tag, _, htag, hopen, .inr (.inr (.inl ⟨block, body, parts, closing, rfl, rfl⟩))⟩

/-! ### Items whose tag is known to start something -/

section

variable {tag : BuiltinTag} {start : Block.Start}

/-- What an item is, from what its tag starts. -/
theorem item_of_start (hload : Loads fs depth load)
    (hm : NamedTag.ofMarkup? markup = some (name, rest))
    (htag : BuiltinTag.ofName? name = some tag)
    (hopen : Block.openBuiltin load tag rest = .ok start)
    {item : Item} {node : Node} {tokens more : List Token} (hnode : item.node? fs depth = some node)
    (htokens : .tag markup :: tokens = item.tokens ++ more) :
    (start = .node node ∧ item = .tag markup ∧ tag ≠ .inclusion)
      ∨ (start = .node node ∧ tag = .inclusion ∧ ∃ included header body,
        item = .inclusion markup included ∧ Inclusion.parse rest = .ok header
          ∧ Included fs depth header.template included body)
      ∨ (∃ block body parts closing, start = .block block
        ∧ item = .block markup body parts closing)
      ∨ ∃ v body closing, start.verbatim? = some v ∧ item = .verbatim markup body closing := by
  obtain ⟨tag', start', htag', hopen', hitem⟩ := start_of_node? hload hm hnode htokens
  rw [htag] at htag'
  cases htag'
  rw [hopen] at hopen'
  cases hopen'
  exact hitem

theorem node?_verbatim_iff_of_start (hm : NamedTag.ofMarkup? markup = some (name, rest))
    (htag : BuiltinTag.ofName? name = some tag)
    (hopen : Block.openBuiltin load tag rest = .ok start)
    {v : Verbatim} (hv : start.verbatim? = some v) {body : List Token} {closing : String}
    {node : Node} :
    (Item.verbatim markup body closing).node? fs depth = some node ↔
      ∃ named, NamedTag.ofMarkup? closing = some named ∧ v.close? body named.1 = some node := by
  rw [node?_verbatim_iff load hm]
  constructor
  · rintro ⟨tag', start', v', named, htag', hopen', hv', hclosing, hclose⟩
    rw [htag] at htag'
    cases htag'
    rw [hopen] at hopen'
    cases hopen'
    rw [hv] at hv'
    cases hv'
    exact ⟨named, hclosing, hclose⟩
  · rintro ⟨named, hclosing, hclose⟩
    exact ⟨tag, start, v, named, htag, hopen, hv, hclosing, hclose⟩

theorem node?_block_iff_of_start (hm : NamedTag.ofMarkup? markup = some (name, rest))
    (htag : BuiltinTag.ofName? name = some tag) {block : Block}
    (hopen : Block.openBuiltin load tag rest = .ok (.block block)) {body : List Item}
    {parts : List (String × List Item)} {closing : String} {node : Node} :
    (Item.block markup body parts closing).node? fs depth = some node ↔
      ∃ nodes nexts named, nodes? fs depth body = some nodes
        ∧ partsNodes? fs depth parts = some nexts ∧ NamedTag.ofMarkup? closing = some named
        ∧ block.close? nodes named nexts = some node := by
  rw [node?_block_iff load hm]
  constructor
  · rintro ⟨tag', block', nodes, nexts, named, htag', hopen', hnodes, hnexts, hclosing, hclose⟩
    rw [htag] at htag'
    cases htag'
    rw [hopen] at hopen'
    cases hopen'
    exact ⟨nodes, nexts, named, hnodes, hnexts, hclosing, hclose⟩
  · rintro ⟨nodes, nexts, named, hnodes, hnexts, hclosing, hclose⟩
    exact ⟨tag, block, nodes, nexts, named, htag, hopen, hnodes, hnexts, hclosing, hclose⟩

end

/-! ### Tags in front -/

/-- A tag that can be read, as a delimiter or in front of an item, has a name. -/
theorem Accepts.exists_named {before frames tokens w out}
    (h : Accepts fs depth ⟨before, frames, none⟩ (.tag markup :: tokens) w out) :
    ∃ named, NamedTag.ofMarkup? markup = some named := by
  rcases h.cons_or_delimiter with ⟨item, w', rfl⟩ |
    ⟨block, around, outer, _, parts, closing, w', rfl, -, rfl⟩
  · obtain ⟨node, more, hnode, htokens, -⟩ := accepts_cons_iff.1 h
    cases hm : NamedTag.ofMarkup? markup with
    | some named => exact ⟨named, rfl⟩
    | none =>
      -- no item has a tree then
      cases item with
      | text s => cases htokens
      | output s => cases htokens
      | tag s =>
        cases htokens
        simp [Item.node?, hm] at hnode
      | inclusion s included =>
        cases htokens
        cases depth <;> simp [Item.node?, hm] at hnode
      | verbatim s body closing =>
        cases htokens
        simp [Item.node?, hm] at hnode
      | block s body parts closing =>
        cases htokens
        simp [Item.node?, hm] at hnode
  · cases parts with
    | nil =>
      obtain ⟨-, named, -, hnamed, -⟩ := accepts_end_iff.1 h
      exact ⟨named, hnamed⟩
    | cons part parts =>
      obtain ⟨-, named, -, hnamed, -⟩ := accepts_part_iff.1 h
      exact ⟨named, hnamed⟩

end

end Liquid
