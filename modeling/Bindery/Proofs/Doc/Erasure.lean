import Bindery.Binding.Document
import Bindery.Proofs.Doc.Catalog

/-!
# What passes leave on a document

The passes through a bound document leave numbers on expressions and on spans that refer to them,
anchors on sections and entries on catalogs.  A document without these is `erased`.  The passes
touch nothing else, so erasing shows no difference between a document before and after them
(`erased_finish`).

Erasing everywhere would also hide what a pass did to a deleted node or below one.  `erasedLive`
erases what is live and keeps a deleted node with all that is below it, and it shows no difference
either (`erasedLive_finish`): what is deleted has not been touched at all.

Both follow from one statement about walks (`apply_walk`).  A note changes a layer only in what is
erased from it, so whatever is told of a document from its erased layers is told alike after a walk.
-/

namespace Bindery

namespace Doc

namespace Kind

variable {α β : Type}

/-- A layer without numbers, anchor and entries. -/
def bare : Kind α → Kind α
  | span spans text => span spans { text with referenceIndex := none }
  | sect level _ title contents model => sect level none title contents model
  | catalog title _ => catalog title []
  | expression id element _ => expression id element 0
  | kind => kind

theorem bare_map (f : α → β) (kind : Kind α) : (kind.map f).bare = kind.bare.map f := by
  cases kind <;> rfl

/-- **A note changes nothing but what is erased.** -/
theorem bare_annotate (note : Note) (kind : Kind Doc) : (kind.annotate note).bare = kind.bare := by
  cases note <;> cases kind <;> rfl

end Kind

/-- The document without numbers, anchors and entries at any node. -/
def erased : Doc → Doc :=
  fold fun head kind => node head kind.bare

/-- The document without numbers, anchors and entries at any live node.  Deleted nodes are kept with
all that is below them. -/
def erasedLive : Doc → Doc :=
  para fun head kind =>
    if head.flags.isDeleted then node head (kind.map Prod.fst)
    else node head (kind.map Prod.snd).bare

theorem erased_node (head : Head) (kind : Kind Doc) :
    erased (node head kind) = node head (kind.map erased).bare :=
  fold_node _ head kind

theorem erasedLive_node (head : Head) (kind : Kind Doc) :
    erasedLive (node head kind) =
      if head.flags.isDeleted then node head kind else node head (kind.map erasedLive).bare := by
  rw [erasedLive, para_node, Kind.map_fst_pair, Kind.map_map]
  rfl

/-! ## Walks -/

section Walk

variable {counts : Doc → Bool} {note : Nat → Doc → Note} {f : Doc → Doc}

/-- **A walk does not show** in what is told of a document from its bare layers. -/
theorem apply_walk
    (hf : ∀ head kind, head.flags.isDeleted = false →
      f (node head kind) = node head (kind.map f).bare) (doc : Doc) (n : Nat) :
    f (walk counts note doc n).1 = f doc := by
  induction doc using induct generalizing n with
  | step head kind ih =>
    cases hlive : head.flags.isDeleted with
    | true => rw [walk_of_isDeleted hlive]
    | false =>
      have hlayer (m : Nat) : (walkLayer counts note kind m).1.map f = kind.map f :=
        Kind.map_traverse _ _ (fun child hchild => ih child (Kind.mem_nodes.2 (Or.inl hchild)))
          (fun _ _ => rfl) m
      rw [walk_of_isDeleted_eq_false counts note hlive, hf _ _ hlive, hf _ _ hlive, Kind.bare_map,
        Kind.bare_annotate, ← Kind.bare_map, hlayer]

end Walk

/-- What is told of a document from its bare layers is told alike once it is finished. -/
theorem apply_finish {f : Doc → Doc}
    (hf : ∀ head kind, head.flags.isDeleted = false →
      f (node head kind) = node head (kind.map f).bare) (options : Options) (doc : Doc) :
    f (options.finish doc) = f doc := by
  have hnumbers (doc : Doc) : f doc.numberExpressions = f doc := apply_walk hf doc 0
  have hcatalogs (doc : Doc) : f doc.fillCatalogs = f doc := apply_walk hf doc 0
  rw [Options.finish]
  split <;> split <;> simp only [hnumbers, hcatalogs]

/-- **Finishing leaves nothing but numbers, anchors and entries.** -/
theorem erased_finish (options : Options) (doc : Doc) :
    (options.finish doc).erased = doc.erased :=
  apply_finish (fun head kind _ => erased_node head kind) options doc

/-- **Finishing leaves nothing on deleted nodes**, nor below them. -/
theorem erasedLive_finish (options : Options) (doc : Doc) :
    (options.finish doc).erasedLive = doc.erasedLive :=
  apply_finish (fun head kind h => by rw [erasedLive_node, if_neg (by simp [h])]) options doc

/-- A document where there is nothing to number and nothing to enter is finished as it is. -/
theorem finish_eq_self (options : Options) {doc : Doc}
    (hnumbers : ∀ met ∈ doc.live, ∀ ids n, numberNote ids n met = .nothing)
    (hcatalogs : ∀ met ∈ doc.live, ∀ entries n, catalogNote entries n met = .nothing) :
    options.finish doc = doc := by
  have hnumbered : doc.numberExpressions = doc :=
    walk_eq_self (fun met hmet => hnumbers met hmet _) 0
  have hcataloged : doc.fillCatalogs = doc :=
    walk_eq_self (fun met hmet => hcatalogs met hmet _) 0
  simp only [Options.finish, hnumbered, hcataloged, ite_self]

end Doc

end Bindery
