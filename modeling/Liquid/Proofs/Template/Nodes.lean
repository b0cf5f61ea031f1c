import Liquid.Engine
import Liquid.Proofs.Except

/-!
# The nodes of a tree

What holds of every node that compiling makes, if it holds of the nodes inside, holds of the whole
tree.

- `Node.children`: the nodes of the bodies of a node.
- `Dialect.Makes`: what is known of the nodes that a dialect makes: an `include` holds the tree that
  is included, and only a registered tag makes the node of a registered tag.
- `Template.forall_of_parseTokens`: induction over the trees that tokens compile to.
-/

namespace Liquid

/-- The nodes of the bodies of a node. -/
def Node.children : Node → List Node
  | .capture _ body | .inclusion _ body | .table _ body => body
  | .loop _ body otherwise => body ++ otherwise
  | .branch _ branches otherwise => branches.flatMap Prod.snd ++ otherwise
  | .case _ clauses otherwise => clauses.flatMap Prod.snd ++ otherwise
  | .host _ _ _ bodies => bodies.flatten
  | .text _ | .output _ | .assign .. | .comment | .raw _ | .cycle _ => []

/-- What is known of a node that a dialect makes. -/
def Dialect.Makes (d : Dialect) : Node → Prop
  | .inclusion header body => d.load header.template = .ok body
  | .host .. => d.tags ≠ []
  | _ => True

namespace Block

/-- The nodes of the bodies of an open block, as far as they have been read. -/
def nodes : Block → List Node
  | loopElse _ body => body
  | branch _ branches _ | branchElse _ branches => branches.flatMap Prod.snd
  | clause _ clauses otherwise _ => clauses.flatMap Prod.snd ++ otherwise
  | caseElse _ clauses => clauses.flatMap Prod.snd
  | host _ _ _ _ bodies => bodies.flatten
  | capture _ | table _ | loop _ | caseHead _ => []

/-- What is known of a block that a dialect opens: only a registered tag opens the block of a
registered tag. -/
def OpenedBy (d : Dialect) : Block → Prop
  | host .. => d.tags ≠ []
  | _ => True

/-- A step of a block keeps to the nodes that have been read, and to what the dialect makes. -/
def Step.KeepsTo (d : Dialect) (read : List Node) : Step → Prop
  | .next block => block.OpenedBy d ∧ block.nodes ⊆ read
  | .done node => d.Makes node ∧ node.children ⊆ read

variable {d : Dialect} {name markup : String} {body : List Node} {step : Step}

theorem keepsTo_delimitCase? {subject : Expression} {clauses : List (List Expression × List Node)}
    {otherwise read : List Node} (hclauses : clauses.flatMap Prod.snd ⊆ read)
    (hotherwise : otherwise ⊆ read)
    (h : delimitCase? subject clauses otherwise name markup = some (.ok step)) :
    step.KeepsTo d read := by
  unfold delimitCase? at h
  split at h
  · obtain ⟨values, -, hstep⟩ := bind_eq_ok_iff.1 (Option.some.inj h)
    cases hstep
    exact ⟨trivial, List.append_subset.2 ⟨hclauses, hotherwise⟩⟩
  split at h
  · cases h
    exact ⟨trivial, hclauses⟩
  split at h
  · cases h
    exact ⟨trivial, List.append_subset.2 ⟨hclauses, hotherwise⟩⟩
  · cases h

/-- A delimiter makes nodes and blocks of what has been read. -/
theorem keepsTo_delimit? {block : Block} (hblock : block.OpenedBy d)
    (h : block.delimit? name markup body = some (.ok step)) :
    step.KeepsTo d (block.nodes ++ body) := by
  have hleft : block.nodes ⊆ block.nodes ++ body := List.subset_append_left _ _
  have hright : body ⊆ block.nodes ++ body := List.subset_append_right _ _
  have hboth : block.nodes ++ body ⊆ block.nodes ++ body := List.Subset.refl _
  -- where a second body is missing there is an empty one
  have hmissing : ∀ {nodes : List Node}, nodes ⊆ block.nodes ++ body →
      nodes ++ [] ⊆ block.nodes ++ body := fun hnodes =>
    List.append_subset.2 ⟨hnodes, List.nil_subset _⟩
  cases block with
  | capture | table =>
    obtain ⟨-, hstep⟩ := Option.ite_none_right_eq_some.1 h
    cases hstep
    exact ⟨trivial, hright⟩
  | loopElse | branchElse =>
    obtain ⟨-, hstep⟩ := Option.ite_none_right_eq_some.1 h
    cases hstep
    exact ⟨trivial, hboth⟩
  | loop =>
    unfold delimit? at h
    simp only at h
    split at h
    · cases h
      exact ⟨trivial, hright⟩
    · obtain ⟨-, hstep⟩ := Option.ite_none_right_eq_some.1 h
      cases hstep
      exact ⟨trivial, hmissing hright⟩
  | branch negated branches condition =>
    -- the branch that ends here goes to the others
    have hbranches : (branches ++ [(condition, body)]).flatMap Prod.snd ⊆
        branches.flatMap Prod.snd ++ body := by
      rw [List.flatMap_append, List.flatMap_singleton]
      exact List.Subset.refl _
    unfold delimit? at h
    simp only at h
    split at h
    · obtain ⟨condition', -, hstep⟩ := bind_eq_ok_iff.1 (Option.some.inj h)
      cases hstep
      exact ⟨trivial, hbranches⟩
    split at h
    · cases h
      exact ⟨trivial, hbranches⟩
    split at h
    · cases h
      exact ⟨trivial, hmissing hbranches⟩
    · cases h
  | caseHead subject =>
    exact keepsTo_delimitCase? (List.nil_subset _) (List.nil_subset _) h
  | clause subject clauses otherwise values =>
    refine keepsTo_delimitCase? ?_ ?_ h
    · rw [List.flatMap_append, List.flatMap_singleton]
      exact List.append_subset.2 ⟨fun node hnode => hleft (List.mem_append_left _ hnode), hright⟩
    · exact fun node hnode => hleft (List.mem_append_right _ hnode)
  | caseElse subject clauses => exact keepsTo_delimitCase? hleft hright h
  | host tag delimiters action arguments bodies =>
    have hbodies : (bodies ++ [body]).flatten ⊆ bodies.flatten ++ body := by
      rw [List.flatten_append, List.flatten_singleton]
      exact List.Subset.refl _
    unfold delimit? at h
    simp only at h
    split at h
    · cases h
      exact ⟨hblock, hbodies⟩
    · cases h
      exact ⟨hblock, hbodies⟩
    · cases h

/-- What is known of the start of a tag: of its bodies nothing has been read, and what else is
inside comes from an included template. -/
def Start.MadeBy (d : Dialect) : Start → Prop
  | .node made => d.Makes made
      ∧ ∀ child ∈ made.children, ∃ name nodes, d.load name = .ok nodes ∧ child ∈ nodes
  | .block opened => opened.OpenedBy d ∧ opened.nodes = []
  | .raw | .comment => True

theorem Start.madeBy_leaf {made : Node} (hmade : d.Makes made) (hleaf : made.children = []) :
    (Start.node made).MadeBy d := by
  refine ⟨hmade, fun child hchild => ?_⟩
  rw [hleaf] at hchild
  exact (List.not_mem_nil hchild).elim

theorem madeBy_openBuiltin {tag : BuiltinTag} {start : Start}
    (h : openBuiltin d.load tag markup = .ok start) : start.MadeBy d := by
  cases tag with
  | assign =>
    obtain ⟨node, hnode, rfl⟩ := map_eq_ok_iff.1 h
    unfold parseAssign at hnode
    split at hnode
    · obtain ⟨pipeline, -, heq⟩ := bind_eq_ok_iff.1 hnode
      cases heq
      exact Start.madeBy_leaf trivial rfl
    · cases hnode
  | capture =>
    obtain ⟨block, hblock, rfl⟩ := map_eq_ok_iff.1 h
    unfold parseCapture at hblock
    split at hblock
    · cases hblock
      exact ⟨trivial, rfl⟩
    · cases hblock
  | comment =>
    cases h
    trivial
  | raw =>
    cases h
    trivial
  | cycle =>
    obtain ⟨cycle, -, heq⟩ := bind_eq_ok_iff.1 h
    cases heq
    exact Start.madeBy_leaf trivial rfl
  | loop | branch | negatedBranch | table =>
    obtain ⟨header, -, heq⟩ := bind_eq_ok_iff.1 h
    cases heq
    exact ⟨trivial, rfl⟩
  | case =>
    obtain ⟨block, hblock, rfl⟩ := map_eq_ok_iff.1 h
    unfold parseCase at hblock
    split at hblock
    · cases hblock
    · obtain ⟨subject, -, heq⟩ := bind_eq_ok_iff.1 hblock
      cases heq
      exact ⟨trivial, rfl⟩
  | inclusion =>
    obtain ⟨header, -, h⟩ := bind_eq_ok_iff.1 h
    obtain ⟨body, hbody, heq⟩ := bind_eq_ok_iff.1 h
    cases heq
    exact ⟨hbody, fun child hchild => ⟨_, body, hbody, hchild⟩⟩

theorem madeBy_openCustom (htags : d.tags ≠ []) {custom : CustomTag} {start : Start}
    (h : openCustom custom name markup = .ok start) : start.MadeBy d := by
  obtain ⟨arguments, -, rfl⟩ := map_eq_ok_iff.1 h
  unfold startCustom
  split
  · exact Start.madeBy_leaf htags rfl
  · exact ⟨htags, rfl⟩

end Block

section

variable {d : Dialect} {Q : Node → Prop} {p p' : Progress}

namespace Progress

/-- `Q` holds of every node that has been read. -/
structure AllNodes (d : Dialect) (Q : Node → Prop) (p : Progress) : Prop where
  /-- It holds in the current body. -/
  nodes : ∀ node ∈ p.nodes, Q node
  /-- It holds in the blocks that are open. -/
  blocks : ∀ frame ∈ p.frames, frame.block.OpenedBy d ∧ ∀ node ∈ frame.block.nodes, Q node
  /-- It holds in front of these blocks. -/
  before : ∀ frame ∈ p.frames, ∀ node ∈ frame.before, Q node

theorem AllNodes.add {node : Node} (hp : p.AllNodes d Q) (hnode : Q node) :
    (p.add node).AllNodes d Q :=
  { hp with
    nodes := fun other hother => by
      rcases List.mem_append.1 hother with hother | hother
      · exact hp.nodes other hother
      · rw [List.mem_singleton.1 hother]
        exact hnode }

variable (hQ : ∀ node, d.Makes node → (∀ child ∈ node.children, Q child) → Q node)
  (hload : ∀ name nodes, d.load name = .ok nodes → ∀ node ∈ nodes, Q node)

include hQ

theorem AllNodes.readVerbatim {t : Token} (v : Verbatim) (hp : p.AllNodes d Q) :
    (p.readVerbatim t v).AllNodes d Q := by
  have hend : ∀ node : Node, d.Makes node → node.children = [] →
      AllNodes d Q { p.add node with verbatim := none } := by
    intro node hnode hchildren
    have hadd : (p.add node).AllNodes d Q := hp.add (hQ node hnode fun child hchild => by
      rw [hchildren] at hchild
      exact (List.not_mem_nil hchild).elim)
    exact ⟨hadd.nodes, hadd.blocks, hadd.before⟩
  have hgo : ∀ v, AllNodes d Q { p with verbatim := v } := fun _ =>
    ⟨hp.nodes, hp.blocks, hp.before⟩
  cases v with
  | raw text =>
    rw [Progress.readVerbatim]
    split
    · exact hend _ trivial rfl
    · exact hgo _
  | comment depth =>
    rw [Progress.readVerbatim]
    split
    · exact hgo _
    split
    · split
      · exact hend _ trivial rfl
      · exact hgo _
    · exact hp

include hload

theorem AllNodes.start {start : Block.Start} (hp : p.AllNodes d Q) (hstart : start.MadeBy d) :
    (p.start start).AllNodes d Q := by
  cases start with
  | node node =>
    refine hp.add (hQ node hstart.1 fun child hchild => ?_)
    obtain ⟨name, nodes, hnodes, hmem⟩ := hstart.2 child hchild
    exact hload name nodes hnodes child hmem
  | block block =>
    exact
      { nodes := fun node hnode => (List.not_mem_nil hnode).elim
        blocks := by
          refine List.forall_mem_cons.2 ⟨⟨hstart.1, fun node hnode => ?_⟩, hp.blocks⟩
          have hnil : node ∈ block.nodes := hnode
          rw [hstart.2] at hnil
          exact (List.not_mem_nil hnil).elim
        before := List.forall_mem_cons.2 ⟨hp.nodes, hp.before⟩ }
  | raw => exact ⟨hp.nodes, hp.blocks, hp.before⟩
  | comment => exact ⟨hp.nodes, hp.blocks, hp.before⟩

theorem AllNodes.openTag {name rest markup : String} (hp : p.AllNodes d Q)
    (h : p.openTag d name rest markup = .ok p') : p'.AllNodes d Q := by
  unfold Progress.openTag at h
  split at h
  · obtain ⟨start, hstart, rfl⟩ := map_eq_ok_iff.1 h
    exact hp.start hQ hload (Block.madeBy_openBuiltin hstart)
  split at h
  · next custom hcustom =>
    obtain ⟨start, hstart, rfl⟩ := map_eq_ok_iff.1 h
    have htags : d.tags ≠ [] := by
      intro hnil
      rw [hnil] at hcustom
      cases hcustom
    exact hp.start hQ hload (Block.madeBy_openCustom htags hstart)
  · cases h

theorem AllNodes.readTag {name rest markup : String} (hp : p.AllNodes d Q)
    (h : p.readTag d name rest markup = .ok p') : p'.AllNodes d Q := by
  obtain ⟨nodes, frames, verbatim⟩ := p
  cases frames with
  | nil => exact hp.openTag hQ hload h
  | cons frame outer =>
    obtain ⟨⟨hopened, hblock⟩, hblocks⟩ := List.forall_mem_cons.1 hp.blocks
    obtain ⟨hbefore, hbefores⟩ := List.forall_mem_cons.1 hp.before
    have hread : ∀ node ∈ frame.block.nodes ++ nodes, Q node :=
      List.forall_mem_append.2 ⟨hblock, hp.nodes⟩
    simp only [Progress.readTag] at h
    split at h
    · exact hp.openTag hQ hload h
    · next step hdelimit =>
      obtain ⟨step', rfl, h⟩ := bind_eq_ok_iff.1 h
      have hstep := Block.keepsTo_delimit? hopened hdelimit
      cases step' with
      | next block =>
        cases h
        exact
          { nodes := fun node hnode => (List.not_mem_nil hnode).elim
            blocks := List.forall_mem_cons.2
              ⟨⟨hstep.1, fun node hnode => hread node (hstep.2 hnode)⟩, hblocks⟩
            before := List.forall_mem_cons.2 ⟨hbefore, hbefores⟩ }
      | done node =>
        cases h
        exact
          { nodes := by
              refine List.forall_mem_append.2 ⟨hbefore, List.forall_mem_singleton.2 ?_⟩
              exact hQ node hstep.1 fun child hchild => hread child (hstep.2 hchild)
            blocks := hblocks
            before := hbefores }

/-- What a token adds is made of nodes that have been read. -/
theorem AllNodes.read {t : Token} {tokens : List Token} (hp : p.AllNodes d Q)
    (h : p.read d t tokens = .ok p') : p'.AllNodes d Q := by
  unfold Progress.read at h
  split at h
  · cases h
    exact hp.readVerbatim hQ _
  · cases t with
    | literal text =>
      simp only at h
      split at h
      · cases h
      · cases h
        exact hp.add (hQ _ trivial fun child hchild => (List.not_mem_nil hchild).elim)
    | output markup =>
      obtain ⟨pipeline, -, heq⟩ := bind_eq_ok_iff.1 h
      cases heq
      exact hp.add (hQ _ trivial fun child hchild => (List.not_mem_nil hchild).elim)
    | tag markup =>
      simp only at h
      split at h
      · cases h
      · exact hp.readTag hQ hload h

theorem AllNodes.readAll {tokens : List Token} (hp : p.AllNodes d Q)
    (h : Progress.readAll d p tokens = .ok p') : p'.AllNodes d Q := by
  induction tokens generalizing p with
  | nil =>
    cases h
    exact hp
  | cons t tokens ih =>
    obtain ⟨next, hnext, h⟩ := bind_eq_ok_iff.1 h
    exact ih (hp.read hQ hload hnext) h

end Progress

/-- Induction over the tree that tokens compile to: the trees that it includes are known to have the
property, and every node that is made of nodes with the property has it. -/
theorem Template.forall_of_parseTokens
    (hQ : ∀ node, d.Makes node → (∀ child ∈ node.children, Q child) → Q node)
    (hload : ∀ name nodes, d.load name = .ok nodes → ∀ node ∈ nodes, Q node)
    {tokens : List Token} {nodes : List Node} (h : Template.parseTokens d tokens = .ok nodes) :
    ∀ node ∈ nodes, Q node := by
  obtain ⟨p, hp, hfinish⟩ := bind_eq_ok_iff.1 h
  have hempty : Progress.AllNodes d Q {} :=
    { nodes := fun node hnode => (List.not_mem_nil hnode).elim
      blocks := fun frame hframe => (List.not_mem_nil hframe).elim
      before := fun frame hframe => (List.not_mem_nil hframe).elim }
  have hall := hempty.readAll hQ hload hp
  unfold Progress.finish at hfinish
  split at hfinish
  · cases hfinish
  · cases hfinish
  · cases hfinish
  · cases hfinish
    exact hall.nodes

end

end Liquid
