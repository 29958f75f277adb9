import Bindery.Doc.Content
import Bindery.Doc.Walk
import Bindery.Proofs.Doc.Tree
import Mathlib.Data.List.Basic

/-!
# What a walk through a document does

A walk meets the live nodes of a document in document order, counts some of them and leaves a note
on each.  Notes change what a node has of its own, and neither its children nor its head, so the
live nodes after the walk stand where the live nodes before it stood.  This is the main statement
here (`live_walk`): the live nodes of the document after the walk are those before it, each one
after a walk of its own that starts from the number of counted nodes before it.

Everything else that is said about numbers and anchors follows from it and from what a walk does to
the layer of a single node (`walk_node`).  Nodes that are deleted and all that is below them are
`hidden` from a walk, and stay what they were (`mem_hidden_walk`).  Every node of a document is met
by a walk, or hidden from it, or part of an entry (`live_or_hidden_of_mem_everywhere`).

* `Doc.walk`: a walk from a number, as a function.
* `countedFrom`: nodes with the numbers that a walk has when it meets them.
* `Doc.hidden`: the nodes that no walk meets, however deep they stand.
-/

namespace Bindery

namespace Doc

namespace Kind

variable {α β : Type}

/-- The layer without its nodes: which kind it is, its own data, and how many nodes stand where. -/
def shape (kind : Kind α) : Kind Unit :=
  kind.map fun _ => ()

section Traverse

variable {m : Type → Type} [Monad m] [LawfulMonad m]

theorem toList_mapM (visit : α → m β) (node : Option α) :
    Option.toList <$> node.mapM visit = node.toList.mapM visit := by
  cases node <;> simp

/-- Visiting a layer visits its children in document order. -/
theorem children_traverse (visit : α → m β) (keep : α → β) (kind : Kind α) :
    children <$> kind.traverse visit keep = kind.children.mapM visit := by
  cases kind <;> simp [traverse, children, ← toList_mapM]

theorem traverse_map {γ : Type} (f : γ → α) (visit : α → m β) (keep : α → β) (kind : Kind γ) :
    (kind.map f).traverse visit keep = kind.traverse (visit ∘ f) (keep ∘ f) := by
  have mapM_map (node : Option γ) : (node.map f).mapM visit = node.mapM (visit ∘ f) := by
    cases node <;> rfl
  cases kind <;> simp [traverse, map, mapM_map]

/-- Visiting commutes with a function on the nodes, if it does so at every child. -/
theorem traverse_map_comm {f : α → β} {visit : α → m α} {visit' : β → m β} {kind : Kind α}
    (h : ∀ child ∈ kind.children, visit' (f child) = f <$> visit child) :
    (kind.map f).traverse visit' id = map f <$> kind.traverse visit id := by
  have hlist {nodes : List α} (h : ∀ child ∈ nodes, visit' (f child) = f <$> visit child) :
      nodes.mapM (visit' ∘ f) = List.map f <$> nodes.mapM visit := by
    induction nodes with
    | nil => simp
    | cons node nodes ih =>
      rw [List.forall_mem_cons] at h
      simp [List.mapM_cons, h.1, ih h.2]
  have hoption {node : Option α} (h : ∀ child ∈ node.toList, visit' (f child) = f <$> visit child) :
      node.mapM (visit' ∘ f) = Option.map f <$> node.mapM visit := by
    cases node with
    | none => simp
    | some node => simp [h node (by simp)]
  rw [traverse_map]
  cases kind <;> simp only [children, List.forall_mem_append] at h <;>
    simp_all [traverse, map]

end Traverse

section State

variable {σ : Type} (visit : α → StateM σ β) (keep : α → β)

/-- **A layer that is visited**, seen through a function.  If every child that is visited and every
entry that is kept looks like what it was, then so does the layer. -/
theorem map_traverse {γ : Type} {f : β → γ} {g : α → γ} {kind : Kind α}
    (hvisit : ∀ child ∈ kind.children, ∀ s, f ((visit child).run s).run.1 = g child)
    (hkeep : ∀ entry ∈ kind.entries, f (keep entry) = g entry) (s : σ) :
    ((kind.traverse visit keep).run s).run.1.map f = kind.map g := by
  have hlist {nodes : List α} (h : ∀ child ∈ nodes, ∀ s, f ((visit child).run s).run.1 = g child)
      (s : σ) : ((nodes.mapM visit).run s).run.1.map f = nodes.map g := by
    induction nodes generalizing s with
    | nil => rfl
    | cons node nodes ih =>
      rw [List.forall_mem_cons] at h
      simp [List.mapM_cons, h.1, ih h.2]
  have hoption {node : Option α}
      (h : ∀ child ∈ node.toList, ∀ s, f ((visit child).run s).run.1 = g child) (s : σ) :
      ((node.mapM visit).run s).run.1.map f = node.map g := by
    cases node with
    | none => rfl
    | some node => exact congrArg some (h node (by simp) s)
  cases kind <;> simp only [children, entries, List.forall_mem_append] at hvisit hkeep <;>
    simp_all [traverse, map]

/-- Visiting a layer keeps its shape, whatever becomes of its nodes. -/
theorem shape_traverse (kind : Kind α) (s : σ) :
    ((kind.traverse visit keep).run s).run.1.shape = kind.shape :=
  map_traverse visit keep (fun _ _ _ => rfl) (fun _ _ => rfl) s

theorem entries_traverse (kind : Kind α) (s : σ) :
    ((kind.traverse visit keep).run s).run.1.entries = kind.entries.map keep := by
  cases kind <;> rfl

end State

/-! ## Notes on a layer -/

@[simp] theorem children_annotate (note : Note) (kind : Kind Doc) :
    (kind.annotate note).children = kind.children := by
  cases note <;> cases kind <;> rfl

/-- The only entries that a note can add are its own. -/
theorem mem_entries_annotate {note : Note} {kind : Kind Doc} {entry : Doc}
    (h : entry ∈ (kind.annotate note).entries) :
    entry ∈ kind.entries ∨ ∃ sections, note = .sections sections ∧ entry ∈ sections := by
  cases note with
  | sections sections =>
    cases kind with
    | catalog => exact Or.inr ⟨sections, rfl, h⟩
    | _ => exact Or.inl h
  | _ => exact Or.inl (by cases kind <;> exact h)

end Kind

/-! ## The walk as a function -/

section Walk

variable (counts : Doc → Bool) (note : Nat → Doc → Note)

/-- A document after a walk that starts from a number, and the number that it ends with. -/
def walk (doc : Doc) (n : Nat) : Doc × Nat :=
  ((annotateFrom counts note doc).run n).run

/-- Documents one after the other after a walk through all of them. -/
def walkAll (docs : List Doc) (n : Nat) : List Doc × Nat :=
  ((docs.mapM (annotateFrom counts note)).run n).run

/-- A layer after a walk through its children that starts from a number, and the number that it
ends with. -/
def walkLayer (kind : Kind Doc) (n : Nat) : Kind Doc × Nat :=
  ((kind.traverse (annotateFrom counts note) id).run n).run

/-- Where a walk stands when it has met a node. -/
def count (doc : Doc) (n : Nat) : Nat :=
  if counts doc then n + 1 else n

theorem annotate_eq_walk (doc : Doc) : doc.annotate counts note = (walk counts note doc 0).1 := rfl

@[simp] theorem walkAll_nil (n : Nat) : walkAll counts note [] n = ([], n) := rfl

theorem walkAll_cons (doc : Doc) (docs : List Doc) (n : Nat) :
    walkAll counts note (doc :: docs) n =
      ((walk counts note doc n).1 :: (walkAll counts note docs (walk counts note doc n).2).1,
        (walkAll counts note docs (walk counts note doc n).2).2) := by
  simp [walkAll, walk, List.mapM_cons]

variable {head : Head}

/-- What a walk makes of a live node: it goes through the layer and then leaves the note. -/
theorem walk_of_isDeleted_eq_false (h : head.flags.isDeleted = false) (kind : Kind Doc) (n : Nat) :
    walk counts note (node head kind) n =
      let walked := walkLayer counts note kind (count counts (node head kind) n)
      (node head (walked.1.annotate (note n (node head kind))), walked.2) := by
  rw [walk, annotateFrom, para_node, annotateLayer, Kind.map_fst_pair, Kind.traverse_map, h]
  by_cases hcounts : counts (node head kind) = true
  · simp only [walkLayer, count, hcounts]
    rfl
  · simp only [walkLayer, count, hcounts]
    rfl

/-- **A walk on one layer.**  It goes through the children of the layer, keeps its shape and
entries, and then leaves the note. -/
theorem walk_node (h : head.flags.isDeleted = false) (kind : Kind Doc) (n : Nat) :
    ∃ kind' : Kind Doc, kind'.shape = kind.shape ∧ kind'.entries = kind.entries ∧
      kind'.children = (walkAll counts note kind.children (count counts (node head kind) n)).1 ∧
      walk counts note (node head kind) n =
        (node head (kind'.annotate (note n (node head kind))),
          (walkAll counts note kind.children (count counts (node head kind) n)).2) := by
  have hchildren := congrArg (fun walk => (walk.run (count counts (node head kind) n)).run)
    (Kind.children_traverse (annotateFrom counts note) id kind)
  simp only [StateT.run_map, Id.run_map] at hchildren
  refine ⟨(walkLayer counts note kind (count counts (node head kind) n)).1,
    Kind.shape_traverse _ _ _ _, ?_, congrArg Prod.fst hchildren, ?_⟩
  · exact (Kind.entries_traverse _ _ _ _).trans (List.map_id _)
  · have hcount : (walkAll counts note kind.children (count counts (node head kind) n)).2 =
        (walkLayer counts note kind (count counts (node head kind) n)).2 :=
      (congrArg Prod.snd hchildren).symm
    rw [hcount, walk_of_isDeleted_eq_false counts note h]

variable {counts note}

/-- A walk does not enter a deleted node. -/
theorem walk_of_isDeleted (h : head.flags.isDeleted = true) (kind : Kind Doc) (n : Nat) :
    walk counts note (node head kind) n = (node head kind, n) := by
  rw [walk, annotateFrom, para_node, annotateLayer, Kind.map_fst_pair, h]
  rfl

/-- The nodes after a walk are those before it, each after a walk from some number. -/
theorem exists_of_mem_walkAll {docs : List Doc} {n : Nat} {doc' : Doc}
    (h : doc' ∈ (walkAll counts note docs n).1) :
    ∃ doc ∈ docs, ∃ m, doc' = (walk counts note doc m).1 := by
  induction docs generalizing n with
  | nil => simp at h
  | cons doc docs ih =>
    rw [walkAll_cons, List.mem_cons] at h
    rcases h with rfl | h
    · exact ⟨doc, List.mem_cons_self, n, rfl⟩
    · obtain ⟨doc, hdoc, m, hm⟩ := ih h
      exact ⟨doc, List.mem_cons_of_mem _ hdoc, m, hm⟩

/-! ## The nodes that a walk meets -/

/-- Nodes, each with the number that a walk has come to when it meets them. -/
def countedFrom (counts : Doc → Bool) : Nat → List Doc → List (Doc × Nat)
  | _, [] => []
  | n, doc :: docs => (doc, n) :: countedFrom counts (count counts doc n) docs

theorem countedFrom_append (n : Nat) (docs docs' : List Doc) :
    countedFrom counts n (docs ++ docs') =
      countedFrom counts n docs ++ countedFrom counts (n + docs.countP counts) docs' := by
  induction docs generalizing n with
  | nil => rfl
  | cons doc docs ih =>
    have hcount : count counts doc n + docs.countP counts = n + (doc :: docs).countP counts := by
      rw [count, List.countP_cons]
      split <;> omega
    rw [List.cons_append, countedFrom, countedFrom, List.cons_append, ih, hcount]

theorem map_fst_countedFrom (counts : Doc → Bool) (n : Nat) (docs : List Doc) :
    (countedFrom counts n docs).map Prod.fst = docs := by
  induction docs generalizing n with
  | nil => rfl
  | cons doc docs ih => rw [countedFrom, List.map_cons, ih]

/-- The counted nodes are numbered in their order. -/
theorem filter_countedFrom (n : Nat) (docs : List Doc) :
    (countedFrom counts n docs).filter (fun item => counts item.1) =
      (docs.filter counts).zipIdx n := by
  induction docs generalizing n with
  | nil => rfl
  | cons doc docs ih =>
    cases hcounts : counts doc <;> simp [countedFrom, count, hcounts, ih]

theorem filterMap_fst_countedFrom {β : Type} (g : Doc → Option β) (n : Nat) (docs : List Doc) :
    (countedFrom counts n docs).filterMap (fun item => g item.1) = docs.filterMap g := by
  conv_rhs => rw [← map_fst_countedFrom counts n docs, List.filterMap_map]
  rfl

/-- What is read off the counted nodes is numbered in their order. -/
theorem filterMap_countedFrom {β γ : Type} {g : Doc → Option β}
    (h : ∀ doc, counts doc = (g doc).isSome) (k : β → Nat → γ) (n : Nat) (docs : List Doc) :
    (countedFrom counts n docs).filterMap (fun item => (g item.1).map fun read => k read item.2) =
      ((docs.filterMap g).zipIdx n).map fun item => k item.1 item.2 := by
  induction docs generalizing n with
  | nil => rfl
  | cons doc docs ih =>
    cases hread : g doc <;> simp [countedFrom, count, h, hread, ih]

theorem live_of_isDeleted (h : head.flags.isDeleted = true) (kind : Kind Doc) :
    (node head kind).live = [] := by
  rw [live_node, if_pos h]

theorem live_of_isDeleted_eq_false (h : head.flags.isDeleted = false) (kind : Kind Doc) :
    (node head kind).live = node head kind :: kind.children.flatMap live := by
  rw [live_node, if_neg (by simp [h])]

/-- The live nodes of documents one after the other, if each of them is walked through as in
`live_walk`. -/
theorem live_walkAll {docs : List Doc}
    (h : ∀ doc ∈ docs, ∀ n, (walk counts note doc n).1.live =
        (countedFrom counts n doc.live).map (fun item => (walk counts note item.1 item.2).1) ∧
      (walk counts note doc n).2 = n + doc.live.countP counts) (n : Nat) :
    (walkAll counts note docs n).1.flatMap live =
        (countedFrom counts n (docs.flatMap live)).map
          (fun item => (walk counts note item.1 item.2).1) ∧
      (walkAll counts note docs n).2 = n + (docs.flatMap live).countP counts := by
  induction docs generalizing n with
  | nil => exact ⟨rfl, rfl⟩
  | cons doc docs ih =>
    rw [List.forall_mem_cons] at h
    obtain ⟨hdoc, hcount⟩ := h.1 n
    obtain ⟨hdocs, hcounts⟩ := ih h.2 (walk counts note doc n).2
    rw [walkAll_cons, List.flatMap_cons, List.flatMap_cons, countedFrom_append, List.map_append,
      List.countP_append, hdoc, hdocs, hcounts, hcount]
    exact ⟨rfl, Nat.add_assoc ..⟩

/-- **The live nodes after a walk** are those before it, each one after a walk that starts from the
number of counted nodes before it.  The walk ends with the number of all counted nodes. -/
theorem live_walk (doc : Doc) (n : Nat) :
    (walk counts note doc n).1.live =
        (countedFrom counts n doc.live).map (fun item => (walk counts note item.1 item.2).1) ∧
      (walk counts note doc n).2 = n + doc.live.countP counts := by
  induction doc using induct generalizing n with
  | step head kind ih =>
    cases hlive : head.flags.isDeleted with
    | true =>
      rw [walk_of_isDeleted hlive, live_of_isDeleted hlive]
      exact ⟨rfl, rfl⟩
    | false =>
      obtain ⟨kind', -, -, hchildren, hwalk⟩ := walk_node counts note hlive kind n
      obtain ⟨hlives, hcounts⟩ := live_walkAll
        (fun child hchild => ih child (Kind.mem_nodes.2 (Or.inl hchild)))
        (count counts (node head kind) n)
      rw [live_of_isDeleted_eq_false hlive, countedFrom, List.map_cons, ← hlives, hwalk,
        live_of_isDeleted_eq_false hlive, Kind.children_annotate, hchildren]
      refine ⟨rfl, hcounts.trans ?_⟩
      rw [count, List.countP_cons]
      split <;> omega

/-- Nodes that a walk meets are not deleted, and what is below them is below the document. -/
theorem of_mem_live {doc node' : Doc} (h : node' ∈ doc.live) :
    node'.isDeleted = false ∧ ∀ below ∈ node'.everywhere, below ∈ doc.everywhere := by
  induction doc using induct with
  | step head kind ih =>
    cases hlive : head.flags.isDeleted with
    | true => simp [live_of_isDeleted hlive] at h
    | false =>
      rw [live_of_isDeleted_eq_false hlive, List.mem_cons] at h
      rcases h with rfl | h
      · exact ⟨hlive, fun _ => id⟩
      · obtain ⟨child, hchild, h⟩ := List.mem_flatMap.1 h
        have hnode : child ∈ kind.nodes := Kind.mem_nodes.2 (Or.inl hchild)
        obtain ⟨hdeleted, hbelow⟩ := ih child hnode h
        exact ⟨hdeleted, fun below hmem => mem_everywhere_of_mem_nodes hnode (hbelow below hmem)⟩

theorem mem_everywhere_of_mem_live {doc met : Doc} (h : met ∈ doc.live) : met ∈ doc.everywhere :=
  (of_mem_live h).2 met (mem_everywhere_self met)

/-- A walk that has nothing to leave changes nothing. -/
theorem walk_eq_self {doc : Doc} (h : ∀ met ∈ doc.live, ∀ n, note n met = .nothing) (n : Nat) :
    (walk counts note doc n).1 = doc := by
  induction doc using induct generalizing n with
  | step head kind ih =>
    cases hlive : head.flags.isDeleted with
    | true => rw [walk_of_isDeleted hlive]
    | false =>
      rw [live_of_isDeleted_eq_false hlive, List.forall_mem_cons] at h
      have hchild : ∀ child ∈ kind.children, ∀ m, id (walk counts note child m).1 = id child := by
        intro child hmem
        have hbelow : ∀ met ∈ child.live, ∀ n, note n met = .nothing :=
          fun met hmet => h.2 met (List.mem_flatMap.2 ⟨child, hmem, hmet⟩)
        exact ih child (Kind.mem_nodes.2 (Or.inl hmem)) hbelow
      have hlayer (m : Nat) : (walkLayer counts note kind m).1 = kind := by
        have hmap := Kind.map_traverse _ _ hchild (fun _ _ => rfl) m
        rw [Kind.map_id, Kind.map_id] at hmap
        exact hmap
      rw [walk_of_isDeleted_eq_false counts note hlive, h.1]
      simp only [hlayer, Kind.annotate_nothing]

/-- What a walk makes of a node that it meets. -/
theorem exists_walk_of_mem_live {doc met : Doc} (h : met ∈ doc.live) (n : Nat) :
    ∃ kind' : Kind Doc, kind'.shape = met.kind.shape ∧
      (walk counts note met n).1 = node met.head (kind'.annotate (note n met)) := by
  have hlive := (of_mem_live h).1
  obtain ⟨head, kind⟩ := met
  obtain ⟨kind', hshape, -, -, hwalk⟩ := walk_node counts note hlive kind n
  exact ⟨kind', hshape, congrArg Prod.fst hwalk⟩

/-- Every live node after a walk is a node that the walk has met, with a note. -/
theorem exists_of_mem_live_annotate {doc met' : Doc} (h : met' ∈ (doc.annotate counts note).live) :
    ∃ met ∈ doc.live, ∃ (kind' : Kind Doc) (n : Nat), kind'.shape = met.kind.shape ∧
      met' = node met.head (kind'.annotate (note n met)) := by
  rw [annotate_eq_walk, (live_walk doc 0).1] at h
  obtain ⟨item, hitem, rfl⟩ := List.mem_map.1 h
  have hmet : item.1 ∈ doc.live := by
    rw [← map_fst_countedFrom counts 0 doc.live]
    exact List.mem_map_of_mem hitem
  obtain ⟨kind', hshape, hwalk⟩ := exists_walk_of_mem_live hmet item.2
  exact ⟨item.1, hmet, kind', item.2, hshape, hwalk⟩

/-- **The counted nodes after a walk** are the counted nodes before it, the first one after a walk
from zero, the second one after a walk from one, and so on. -/
theorem filter_live_annotate
    (h : ∀ met (kind' : Kind Doc) n, kind'.shape = met.kind.shape →
      counts (node met.head (kind'.annotate (note n met))) = counts met) (doc : Doc) :
    (doc.annotate counts note).live.filter counts =
      (doc.live.filter counts).zipIdx.map fun item => (walk counts note item.1 item.2).1 := by
  rw [annotate_eq_walk, (live_walk doc 0).1, List.filter_map, ← filter_countedFrom]
  congr 1
  refine List.filter_congr fun item hitem => ?_
  have hmet : item.1 ∈ doc.live := by
    rw [← map_fst_countedFrom counts 0 doc.live]
    exact List.mem_map_of_mem hitem
  obtain ⟨kind', hshape, hwalk⟩ := exists_walk_of_mem_live hmet item.2
  rw [Function.comp_apply, hwalk]
  exact h item.1 kind' item.2 hshape

/-- **Reading off the live nodes after a walk.**  What is read off a node has to depend on its head,
its shape and its note alone. -/
theorem filterMap_live_annotate_counted {β : Type} {f : Doc → Option β} {g : Doc → Nat → Option β}
    (h : ∀ met (kind' : Kind Doc) n, kind'.shape = met.kind.shape →
      f (node met.head (kind'.annotate (note n met))) = g met n) (doc : Doc) :
    (doc.annotate counts note).live.filterMap f =
      (countedFrom counts 0 doc.live).filterMap fun item => g item.1 item.2 := by
  rw [annotate_eq_walk, (live_walk doc 0).1, List.filterMap_map]
  refine List.filterMap_congr fun item hitem => ?_
  have hmet : item.1 ∈ doc.live := by
    rw [← map_fst_countedFrom counts 0 doc.live]
    exact List.mem_map_of_mem hitem
  obtain ⟨kind', hshape, hwalk⟩ := exists_walk_of_mem_live hmet item.2
  rw [Function.comp_apply, hwalk]
  exact h item.1 kind' item.2 hshape

/-- The same, if it does not depend on the number that the walk has come to. -/
theorem filterMap_live_annotate {β : Type} {f g : Doc → Option β}
    (h : ∀ met (kind' : Kind Doc) n, kind'.shape = met.kind.shape →
      f (node met.head (kind'.annotate (note n met))) = g met) (doc : Doc) :
    (doc.annotate counts note).live.filterMap f = doc.live.filterMap g :=
  (filterMap_live_annotate_counted h doc).trans (filterMap_fst_countedFrom g 0 doc.live)

/-! ## The nodes that no walk meets -/

/-- The nodes that are deleted or stand below a deleted node, entries of catalogs included. -/
def hidden : Doc → List Doc :=
  para fun head kind =>
    if head.flags.isDeleted then (node head (kind.map Prod.fst)).everywhere
    else kind.nodes.flatMap Prod.snd

theorem hidden_node (head : Head) (kind : Kind Doc) :
    (node head kind).hidden =
      if head.flags.isDeleted then (node head kind).everywhere else kind.nodes.flatMap hidden := by
  rw [hidden, para_node, Kind.map_fst_pair, Kind.nodes_map, List.flatMap_map]

theorem mem_hidden_node (h : head.flags.isDeleted = false) {kind : Kind Doc} {doc : Doc} :
    doc ∈ (node head kind).hidden ↔ ∃ child ∈ kind.nodes, doc ∈ child.hidden := by
  rw [hidden_node, if_neg (by simp [h]), List.mem_flatMap]

theorem mem_everywhere_of_mem_hidden {doc node' : Doc} (h : node' ∈ doc.hidden) :
    node' ∈ doc.everywhere := by
  induction doc using induct with
  | step head kind ih =>
    cases hlive : head.flags.isDeleted with
    | true => rwa [hidden_node, if_pos hlive] at h
    | false =>
      obtain ⟨child, hchild, h⟩ := (mem_hidden_node hlive).1 h
      exact mem_everywhere_of_mem_nodes hchild (ih child hchild h)

/-- What is hidden below a live node is hidden in the document. -/
theorem mem_hidden_of_mem_live {doc node' below : Doc} (h : node' ∈ doc.live)
    (hbelow : below ∈ node'.hidden) : below ∈ doc.hidden := by
  induction doc using induct with
  | step head kind ih =>
    cases hlive : head.flags.isDeleted with
    | true => simp [live_of_isDeleted hlive] at h
    | false =>
      rw [live_of_isDeleted_eq_false hlive, List.mem_cons] at h
      rcases h with rfl | h
      · exact hbelow
      · obtain ⟨child, hchild, h⟩ := List.mem_flatMap.1 h
        have hnode : child ∈ kind.nodes := Kind.mem_nodes.2 (Or.inl hchild)
        exact (mem_hidden_node hlive).2 ⟨child, hnode, ih child hnode h⟩

/-- **A walk changes nothing that is hidden from it.**  What is hidden after a walk was hidden
before it, or it came with the entries of a note. -/
theorem mem_hidden_walk {doc : Doc} {n : Nat} {node' : Doc}
    (h : node' ∈ (walk counts note doc n).1.hidden) :
    node' ∈ doc.hidden ∨ ∃ before met sections, note before met = .sections sections ∧
      ∃ entry ∈ sections, node' ∈ entry.hidden := by
  induction doc using induct generalizing n with
  | step head kind ih =>
    cases hlive : head.flags.isDeleted with
    | true =>
      rw [walk_of_isDeleted hlive] at h
      exact Or.inl h
    | false =>
      obtain ⟨kind', -, hentries, hchildren, hwalk⟩ := walk_node counts note hlive kind n
      rw [hwalk, mem_hidden_node hlive] at h
      obtain ⟨child', hchild', h⟩ := h
      rw [Kind.mem_nodes, Kind.children_annotate, hchildren] at hchild'
      rw [mem_hidden_node hlive]
      rcases hchild' with hchild' | hentry
      · obtain ⟨child, hchild, m, rfl⟩ := exists_of_mem_walkAll hchild'
        have hnode : child ∈ kind.nodes := Kind.mem_nodes.2 (Or.inl hchild)
        exact (ih child hnode h).imp_left fun h => ⟨child, hnode, h⟩
      · rcases Kind.mem_entries_annotate hentry with hentry | ⟨sections, hnote, hentry⟩
        · rw [hentries] at hentry
          exact Or.inl ⟨child', Kind.mem_nodes.2 (Or.inr hentry), h⟩
        · exact Or.inr ⟨n, node head kind, sections, hnote, child', hentry, h⟩

/-- **What holds of the shape of every node** still does after a walk, if a note does not break it
and it holds in the entries that a note brings. -/
theorem shape_everywhere_walk {P : Kind Unit → Prop}
    (hnote : ∀ met (kind' : Kind Doc) n, kind'.shape = met.kind.shape → P met.kind.shape →
      P (kind'.annotate (note n met)).shape)
    (hsections : ∀ n met sections, note n met = .sections sections → ∀ entry ∈ sections,
      ∀ node' ∈ entry.everywhere, P node'.kind.shape) {doc : Doc} {n : Nat}
    (h : ∀ node' ∈ doc.everywhere, P node'.kind.shape) :
    ∀ node' ∈ (walk counts note doc n).1.everywhere, P node'.kind.shape := by
  induction doc using induct generalizing n with
  | step head kind ih =>
    cases hlive : head.flags.isDeleted with
    | true => rwa [walk_of_isDeleted hlive]
    | false =>
      obtain ⟨kind', hshape, hentries, hchildren, hwalk⟩ := walk_node counts note hlive kind n
      have hbelow (child : Doc) (hchild : child ∈ kind.nodes) :
          ∀ node' ∈ child.everywhere, P node'.kind.shape :=
        fun node' h' => h node' (mem_everywhere_of_mem_nodes hchild h')
      rw [hwalk, everywhere_node, List.forall_mem_cons]
      refine ⟨hnote (node head kind) kind' n hshape (h _ (mem_everywhere_self _)),
        fun node' h' => ?_⟩
      obtain ⟨child', hchild', h'⟩ := List.mem_flatMap.1 h'
      rw [Kind.mem_nodes, Kind.children_annotate, hchildren] at hchild'
      rcases hchild' with hchild' | hentry
      · obtain ⟨child, hchild, m, rfl⟩ := exists_of_mem_walkAll hchild'
        have hnode : child ∈ kind.nodes := Kind.mem_nodes.2 (Or.inl hchild)
        exact ih child hnode (hbelow child hnode) node' h'
      · rcases Kind.mem_entries_annotate hentry with hentry | ⟨sections, hbrought, hentry⟩
        · rw [hentries] at hentry
          exact hbelow child' (Kind.mem_nodes.2 (Or.inr hentry)) node' h'
        · exact hsections _ _ _ hbrought child' hentry node' h'

/-- Every node of a document is met by a walk, or hidden from it, or part of an entry. -/
theorem live_or_hidden_of_mem_everywhere {doc node' : Doc} (h : node' ∈ doc.everywhere) :
    node' ∈ doc.live ∨ node' ∈ doc.hidden ∨
      ∃ catalog ∈ doc.live, ∃ entry ∈ catalog.kind.entries, node' ∈ entry.everywhere := by
  induction doc using induct with
  | step head kind ih =>
    cases hlive : head.flags.isDeleted with
    | true => exact Or.inr (Or.inl (by rwa [hidden_node, if_pos hlive]))
    | false =>
      rw [everywhere_node, List.mem_cons] at h
      rw [live_of_isDeleted_eq_false hlive, mem_hidden_node hlive]
      rcases h with rfl | h
      · exact Or.inl List.mem_cons_self
      · obtain ⟨child, hchild, h⟩ := List.mem_flatMap.1 h
        rcases Kind.mem_nodes.1 hchild with hchild' | hentry
        · have hmem (met : Doc) (hmet : met ∈ child.live) :
              met ∈ node head kind :: kind.children.flatMap live :=
            List.mem_cons_of_mem _ (List.mem_flatMap_of_mem hchild' hmet)
          rcases ih child hchild h with h | h | ⟨catalog, hcatalog, h⟩
          · exact Or.inl (hmem _ h)
          · exact Or.inr (Or.inl ⟨child, hchild, h⟩)
          · exact Or.inr (Or.inr ⟨catalog, hmem _ hcatalog, h⟩)
        · exact Or.inr (Or.inr ⟨node head kind, List.mem_cons_self, child, hentry, h⟩)

end Walk

end Doc

end Bindery
