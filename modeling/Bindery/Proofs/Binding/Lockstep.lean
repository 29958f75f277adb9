import Bindery.Binding.Document
import Bindery.Proofs.Json.Lockstep
import Bindery.Proofs.Template.Tree
import Bindery.Template.Build

/-!
# What binding reads of a model

Binding reads a model along the paths of the template and in no other way, so models in which these
paths lead in lockstep are bound to the same document.  The statement that goes through the
induction is about a template in all of its roles (`Binding.Reads`): in related scopes it gives the
same node, the same slot and the same rows.

In a table the scopes of rows are related one by one, and a scope fans out into as many rows as a
related one, because arrays are related only if they have as many items (`Table.fanOut_eq`).  So the
slots are bound the same, and nothing has to be known about how layout merges and joins them
(`Table.layout_eq`).

Two relations between models are lockstep relations: that they are equal once all entries that the
template does not name are removed, and that they are equal up to the case of keys while no object
has two keys that differ only in case.
-/

namespace Bindery

/-! ## The names of a template -/

namespace Template

/-- The path on which contents are shown. -/
def Kind.condition? {α : Type} : Kind α → Option String
  | conditional _ condition => condition
  | _ => none

@[simp] theorem Kind.condition?_map {α β : Type} (f : α → β) (kind : Kind α) :
    (kind.map f).condition? = kind.condition? := by
  cases kind <;> rfl

/-- All paths of a template: where the data of its nodes lies, and on what contents are shown. -/
def paths : Template → List String :=
  fold fun head kind => head.access :: (kind.condition?.toList ++ kind.nodes.flatten)

theorem paths_node (head : Head) (kind : Kind Template) :
    (node head kind).paths =
      head.access :: (kind.condition?.toList ++ kind.nodes.flatMap paths) := by
  rw [paths, fold_node, Kind.condition?_map, Kind.nodes_map, ← List.flatMap_def]

/-- The names that a template asks for: the keys of its paths. -/
def names (template : Template) : List String :=
  template.paths.flatMap AccessPath.keys

end Template

open Json (Lockstep)

variable {names : List String} {R : Json → Json → Prop}

/-! ## Related items -/

section Forall₂

variable {β : Type} {items items' : List Json}

theorem map_eq_of_forall₂ {f : Json → β} (hf : ∀ ⦃a b⦄, R a b → f a = f b)
    (h : List.Forall₂ R items items') : items.map f = items'.map f := by
  have hmapped : List.Forall₂ (· = ·) (items.map f) (items'.map f) :=
    List.forall₂_map_left_iff.2 (List.forall₂_map_right_iff.2 (h.imp hf))
  rwa [List.forall₂_eq_eq_eq] at hmapped

theorem getElem?_rel (h : List.Forall₂ R items items') (i : Nat) :
    Option.Rel R items[i]? items'[i]? := by
  induction h generalizing i with
  | nil => exact .none
  | cons hab _ ih =>
    cases i with
    | zero => exact .some hab
    | succ i => exact ih i

end Forall₂

/-! ## Tables -/

namespace Table

/-- A column whose data lies under the names, with the same slot for related values. -/
structure Column.Reads (names : List String) (R : Json → Json → Prop) (column : Column) : Prop where
  access : ∀ key ∈ AccessPath.keys column.access, key ∈ names
  slot : ∀ ⦃a b : Json⦄, R a b → column.slot a = column.slot b

namespace Column

variable {column : Column} (hR : Lockstep names R) (h : column.Reads names R) {a b : Json}
  (hab : R a b)

include hR h hab

/-- The data of a column in related scopes is related. -/
theorem data_rel : R (column.data a) (column.data b) :=
  hR.resolve h.access hab

theorem single_eq : column.single a = column.single b :=
  h.slot (data_rel hR h hab)

theorem itemCount_eq : column.itemCount a = column.itemCount b := by
  have hdata := data_rel hR h hab
  rw [itemCount, itemCount]
  generalize column.data a = value at hdata ⊢
  generalize column.data b = value' at hdata ⊢
  cases hR.step hdata with
  | array hitems => exact hitems.length_eq
  | null | bool | number | string | object => rfl

theorem fanned_eq (rowCount row : Nat) :
    column.fanned a rowCount row = column.fanned b rowCount row := by
  have hdata := data_rel hR h hab
  rw [fanned, fanned]
  generalize column.data a = value at hdata ⊢
  generalize column.data b = value' at hdata ⊢
  have hslot : column.slot value = column.slot value' := h.slot hdata
  cases hR.step hdata with
  | @array items items' hitems =>
    have hitem := getElem?_rel hitems row
    dsimp only
    generalize items[row]? = item? at hitem ⊢
    generalize items'[row]? = item'? at hitem ⊢
    cases hitem with
    | none => rfl
    | some hitem => exact h.slot hitem
  | object =>
    dsimp only
    rw [hslot]
  | null | bool | number | string => rfl

end Column

section Layout

variable {columns : List Column} (hR : Lockstep names R)
  (h : ∀ column ∈ columns, column.Reads names R)

include hR h

/-- **Related scopes fan out into as many rows.** -/
theorem fanOut_eq {a b : Json} (hab : R a b) : fanOut columns a = fanOut columns b := by
  have hcounts : (columns.map fun column => column.itemCount a) =
      columns.map fun column => column.itemCount b :=
    List.map_congr_left fun column hcolumn => column.itemCount_eq hR (h column hcolumn) hab
  cases hR.step hab with
  | object => rw [fanOut, hcounts, fanOut]
  | null | bool | number | string | array => rfl

/-- **Related scopes have the same slots.** -/
theorem boundGrid_eq {a b : Json} (hab : R a b) : boundGrid columns a = boundGrid columns b := by
  have hsingle : (columns.map fun column => column.single a) =
      columns.map fun column => column.single b :=
    List.map_congr_left fun column hcolumn => column.single_eq hR (h column hcolumn) hab
  have hfanned (rowCount row : Nat) : (columns.map fun column => column.fanned a rowCount row) =
      columns.map fun column => column.fanned b rowCount row :=
    List.map_congr_left fun column hcolumn =>
      column.fanned_eq hR (h column hcolumn) hab rowCount row
  rw [boundGrid, boundGrid, fanOut_eq hR h hab, hsingle]
  simp only [hfanned]

theorem layout_eq {scopes scopes' : List Json} (hscopes : List.Forall₂ R scopes scopes') :
    layout columns scopes = layout columns scopes' := by
  have hgrids : scopes.map (scopeGrid columns) = scopes'.map (scopeGrid columns) := by
    refine map_eq_of_forall₂ (fun a b hab => ?_) hscopes
    rw [scopeGrid, scopeGrid, boundGrid_eq hR h hab]
  rw [layout, hgrids, layout]

end Layout

end Table

/-! ## Bindings -/

/-- What a template gives is the same in related scopes, in each of its roles, and its data lies
under the names. -/
structure Binding.Reads (names : List String) (R : Json → Json → Prop) (binding : Binding) :
    Prop where
  access : ∀ key ∈ AccessPath.keys binding.access, key ∈ names
  node : ∀ ⦃a b : Json⦄, R a b → binding.node a = binding.node b
  column : binding.column.Reads names R
  rows : ∀ ⦃a b : Json⦄, R a b → binding.rows a = binding.rows b

namespace Binding

variable (hR : Lockstep names R) {a b : Json} (hab : R a b)

include hR hab

theorem Reads.expand_eq {binding : Binding} (h : binding.Reads names R) :
    binding.expand a = binding.expand b := by
  have hnodes := map_eq_of_forall₂ h.node (hR.scopes h.access hab)
  have hexpand (ambient : Json) : binding.expand ambient =
      ((AccessPath.scopes binding.access ambient).map binding.node).filterMap id := by
    rw [List.filterMap_map]
    rfl
  rw [hexpand, hexpand, hnodes]

theorem Reads.alone_eq {binding : Binding} (h : binding.Reads names R) :
    binding.alone a = binding.alone b :=
  h.node (hR.resolve h.access hab)

theorem expandAll_eq {bindings : List Binding} (h : ∀ binding ∈ bindings, binding.Reads names R) :
    expandAll bindings a = expandAll bindings b :=
  List.flatMap_congr fun binding hbinding => (h binding hbinding).expand_eq hR hab

theorem optional_eq {binding? : Option Binding}
    (h : ∀ binding ∈ binding?.toList, binding.Reads names R) :
    optional binding? a = optional binding? b := by
  cases binding? with
  | none => rfl
  | some binding => exact (h binding List.mem_cons_self).alone_eq hR hab

omit hR in
theorem rows_eq {bindings : List Binding} (h : ∀ binding ∈ bindings, binding.Reads names R) :
    bindings.flatMap (·.rows a) = bindings.flatMap (·.rows b) :=
  List.flatMap_congr fun binding hbinding => (h binding hbinding).rows hab

end Binding

namespace Template

open Binding (expandAll_eq optional_eq rows_eq)

/-! ## Layers -/

section Scalars

variable {a b : Json}

theorem SpanSource.runs_eq (source : SpanSource) (hab : Json.Step names R a b) :
    source.runs a = source.runs b := by
  rw [runs, markupText?, hab.string?_eq, runs, markupText?]

theorem SpanSource.text_eq (source : SpanSource) (hab : Json.Step names R a b) (spans : List Doc) :
    source.text a spans = source.text b spans := by
  have hplain : source.plainText a = source.plainText b := by
    rw [plainText, SpanFormat.apply, hab.plainText?_eq, hab.binary64?_eq, plainText,
      SpanFormat.apply]
  rw [text, hplain, text]

/-- Contents are shown in both or in none. -/
theorem isShown_eq (hR : Lockstep names R) {condition : Option String}
    (hcondition : ∀ path ∈ condition, ∀ key ∈ AccessPath.keys path, key ∈ names) (hab : R a b) :
    isShown condition a = isShown condition b := by
  cases condition with
  | none => rfl
  | some path =>
    have hvalue := hR.resolve (hcondition path rfl) hab
    rw [isShown, isShown]
    generalize AccessPath.resolve path a = value at hvalue ⊢
    generalize AccessPath.resolve path b = value' at hvalue ⊢
    cases hR.step hvalue <;> rfl

end Scalars

section Layer

variable (hR : Lockstep names R) {kind : Kind Binding}
  (h : ∀ binding ∈ kind.nodes, binding.Reads names R)
  (hcondition : ∀ path ∈ kind.condition?, ∀ key ∈ AccessPath.keys path, key ∈ names)

include hR h hcondition

/-- **A layer becomes the same in related scopes** if what is below it does. -/
theorem bindKind_eq {a b : Json} (hab : R a b) : bindKind kind a = bindKind kind b := by
  have hall {bindings : List Binding} (h : ∀ binding ∈ bindings, binding.Reads names R) :
      Binding.expandAll bindings a = Binding.expandAll bindings b := expandAll_eq hR hab h
  have hoption {binding? : Option Binding}
      (h : ∀ binding ∈ binding?.toList, binding.Reads names R) :
      Binding.optional binding? a = Binding.optional binding? b := optional_eq hR hab h
  have hstep := hR.step hab
  cases kind <;> simp only [Kind.nodes, List.forall_mem_append] at h <;> rw [bindKind, bindKind]
  case document header contents footer => rw [hoption h.1, hall h.2.1, hoption h.2.2]
  case span spans source =>
    rw [source.runs_eq hstep, hall h]
    simp only [source.text_eq hstep]
  case sect level title contents model =>
    have htitle : title.bind (·.node a) = title.bind (·.node b) := by
      cases title with
      | none => rfl
      | some title => exact (h.1 title List.mem_cons_self).node hab
    rw [htitle, hall h.2]
  case table headers rows => rw [rows_eq hab h.1, rows_eq hab h.2]
  case tableRow cells =>
    have hcells : (cells.map fun cell => (cell.column.single a).toDoc) =
        cells.map fun cell => (cell.column.single b).toDoc :=
      List.map_congr_left fun cell hcell =>
        congrArg Table.Slot.toDoc (cell.column.single_eq hR (h cell hcell).column hab)
    rw [hcells]
  case image path => rw [hstep.string?_eq]
  case conditional contents condition =>
    have hshown : isShown condition a = isShown condition b := isShown_eq hR hcondition hab
    rw [hshown, hall h]
  case tableCell | catalog | expression => rw [hoption h]
  case paragraph | list | multiElement | multiParagraph | singleRow => rw [hall h]

theorem bindLayer_eq (head : Head) {a b : Json} (hab : R a b) :
    bindLayer head kind a = bindLayer head kind b := by
  rw [bindLayer, bindKind_eq hR h hcondition hab, bindLayer]

variable {head : Head} (haccess : ∀ key ∈ AccessPath.keys head.access, key ∈ names)

include haccess

theorem reads_columnLayer : (columnLayer head kind).Reads names R := by
  cases kind with
  | tableCell element settings =>
    refine ⟨haccess, fun a b hab => ?_⟩
    dsimp only [columnLayer]
    rw [optional_eq hR hab h]
  | _ =>
    refine ⟨haccess, fun a b hab => ?_⟩
    dsimp only [columnLayer]
    rw [bindLayer_eq hR h hcondition head hab]

omit hcondition in
theorem gridLayer_eq {a b : Json} (hab : R a b) :
    gridLayer head.access kind a = gridLayer head.access kind b := by
  cases kind with
  | tableRow cells =>
    refine Table.layout_eq hR (fun column hcolumn => ?_) (hR.scopes haccess hab)
    obtain ⟨binding, hbinding, rfl⟩ := List.mem_map.1 hcolumn
    exact (h binding hbinding).column
  | _ => rfl

theorem reads_bindingLayer : (bindingLayer head kind).Reads names R where
  access := haccess
  node _ _ hab := bindLayer_eq hR h hcondition head hab
  column := reads_columnLayer hR h hcondition haccess
  rows a b hab := by
    show (gridLayer head.access kind a).map head.row = (gridLayer head.access kind b).map head.row
    rw [gridLayer_eq hR h haccess hab]

end Layer

/-! ## Templates -/

/-- **A template reads related scopes alike** if the keys of its paths are among the names. -/
theorem reads_binding (hR : Lockstep names R) (template : Template)
    (hnames : ∀ path ∈ template.paths, ∀ key ∈ AccessPath.keys path, key ∈ names) :
    template.binding.Reads names R := by
  induction template using induct with
  | step head kind ih =>
    rw [paths_node] at hnames
    rw [List.forall_mem_cons, List.forall_mem_append] at hnames
    obtain ⟨haccess, hcondition, hbelow⟩ := hnames
    rw [binding_node]
    refine reads_bindingLayer hR (fun binding hbinding => ?_) ?_ haccess
    · rw [Kind.nodes_map] at hbinding
      obtain ⟨child, hchild, rfl⟩ := List.mem_map.1 hbinding
      exact ih child hchild fun path hpath =>
        hbelow path (List.mem_flatMap.2 ⟨child, hchild, hpath⟩)
    · rw [Kind.condition?_map]
      exact fun path hpath => hcondition path (Option.mem_toList.2 hpath)

/-- **Models in lockstep for the names of a template** are bound to the same document, or fail
alike. -/
theorem bindDocument_eq_of_lockstep {template : Template} (hR : Lockstep template.names R)
    (options : Options) {model model' : Json} (h : R model model') :
    template.bindDocument options model = template.bindDocument options model' := by
  have hreads := template.reads_binding hR fun path hpath key hkey =>
    List.mem_flatMap.2 ⟨path, hpath, hkey⟩
  have hchild : template.bindChild model = template.bindChild model' := hreads.alone_eq hR h
  rw [bindDocument, hchild, bindDocument]

/-- **Binding reads only what the template names.**  Models that are equal once all entries are
removed whose key is no key of a path of the template, up to the case of ASCII letters, are bound to
the same document or fail alike. -/
theorem bindDocument_eq_of_restrict_eq (template : Template) (options : Options)
    {model model' : Json}
    (h : model.restrict template.names = model'.restrict template.names) :
    template.bindDocument options model = template.bindDocument options model' :=
  bindDocument_eq_of_lockstep (Json.lockstep_restrict _) options ⟨trivial, h⟩

/-- A greeting for members, and a table of their orders. -/
def memberLetter : Template :=
  multi [conditional "user.member" [paragraph [field "user.name"]],
    table [] [(row [cell (some (field "item"))]).withAccess "orders"]]

/-- What the letter asks for. -/
def memberData : Json :=
  .object [("User", .object [("name", .string "x"), ("Member", .bool true)]),
    ("orders", .array [.object [("item", .array [.string "ink", .string "pen"])]])]

/-- The same among other entries, outside and inside arrays. -/
def memberAccount : Json :=
  .object [("id", .ofNat 7),
    ("User", .object [("name", .string "x"), ("password", .string "y"), ("Member", .bool true)]),
    ("orders", .array [.object [("cost", .ofNat 2),
      ("item", .array [.string "ink", .string "pen"])]])]

theorem memberLetter_reads_no_more :
    memberData.restrict memberLetter.names = memberAccount.restrict memberLetter.names ∧
      ∃ doc, memberLetter.bindDocument .standard memberData = .ok doc ∧
        memberLetter.bindDocument .standard memberAccount = .ok doc := by
  have hsame : memberData.restrict memberLetter.names =
      memberAccount.restrict memberLetter.names := by rfl
  have hequal := bindDocument_eq_of_restrict_eq memberLetter .standard hsame
  exact ⟨hsame, _, rfl, hequal.symm⟩

/-- **The case of keys does not matter** to binding.  Models that differ only in the case of the
ASCII letters of keys, and of which no object has two keys that are equal up to case, are bound to
the same document or fail alike. -/
theorem bindDocument_eq_of_foldKeys_eq (template : Template) (options : Options)
    {model model' : Json} (hdistinct : model.DistinctKeys)
    (h : model.foldKeys = model'.foldKeys) :
    template.bindDocument options model = template.bindDocument options model' :=
  bindDocument_eq_of_lockstep (Json.lockstep_foldKeys _) options ⟨hdistinct, h⟩

/-- The data of the letter under keys in another case. -/
def memberDataInCapitals : Json :=
  .object [("USER", .object [("NAME", .string "x"), ("MEMBER", .bool true)]),
    ("ORDERS", .array [.object [("ITEM", .array [.string "ink", .string "pen"])]])]

theorem memberLetter_ignores_case :
    memberData.DistinctKeys ∧ memberData.foldKeys = memberDataInCapitals.foldKeys ∧
      ∃ doc, memberLetter.bindDocument .standard memberData = .ok doc ∧
        memberLetter.bindDocument .standard memberDataInCapitals = .ok doc := by
  have huser : Json.DistinctKeys (.object [("name", .string "x"), ("Member", .bool true)]) :=
    .object (by decide +kernel) (by simp [Json.DistinctKeys.string, Json.DistinctKeys.bool])
  have hitems : Json.DistinctKeys (.array [.string "ink", .string "pen"]) :=
    .array (by simp [Json.DistinctKeys.string])
  have horders : Json.DistinctKeys
      (.array [.object [("item", .array [.string "ink", .string "pen"])]]) :=
    .array (List.forall_mem_singleton.2 (.object (by decide +kernel)
      (List.forall_mem_singleton.2 hitems)))
  have hdistinct : memberData.DistinctKeys :=
    .object (by decide +kernel)
      (List.forall_mem_cons.2 ⟨huser, List.forall_mem_singleton.2 horders⟩)
  have hsame : memberData.foldKeys = memberDataInCapitals.foldKeys := by
    simp only [memberData, memberDataInCapitals, Json.foldKeys, Json.rekey, Json.rekeyEntries,
      Json.rekeyItems, Json.object.injEq, Json.array.injEq, List.cons.injEq, Prod.mk.injEq,
      Json.foldKey_eq_iff, and_true]
    decide +kernel
  have hequal := bindDocument_eq_of_foldKeys_eq memberLetter .standard hdistinct hsame
  exact ⟨hdistinct, hsame, _, rfl, hequal.symm⟩

end Template

end Bindery
