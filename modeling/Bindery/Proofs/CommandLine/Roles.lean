import Bindery.CommandLine.Arguments
import Mathlib.Data.List.Basic

/-!
# The roles of command line arguments

The arguments are scanned twice.  A flag looks for its first occurrence anywhere and takes the
argument after it.  The paths are found from left to right, where a flag that takes a value is
passed over together with the argument after it, whatever that is.  The two scans agree on where
values stand as long as no flag stands in the place of a value.

Here the places of arguments are given their roles, and what a list of arguments asks for is what
stands in these places (`Arguments.getElem?_positionals`, `Arguments.valueOf?_eq_some_iff_finds`).
The scan for paths is followed place by place: an argument is read on its own unless the one before
it is read and takes a value (`Arguments.isRead`).  A value that is taken has another role as well
exactly in three cases (`Arguments.hasOneRole_iff_forall`): it asks for plain text, it is the other
flag where that acts, or its own flag has been passed over as a value, so that the value is read as
a path.
-/

namespace Bindery

namespace Arguments

/-! ## Places -/

/-- Whether the scan for paths reads the argument at this place on its own.  Otherwise it is passed
over as the value of the flag before it. -/
def isRead (arguments : List String) : Nat → Bool
  | 0 => true
  | i + 1 => !(isRead arguments i && arguments[i]?.any takesValue)

/-- Whether a path stands at this place. -/
def isPath (arguments : List String) (i : Nat) : Bool :=
  isRead arguments i && arguments[i]?.any fun argument => !isFlag argument

/-- The places of the paths. -/
def pathPlaces (arguments : List String) : List Nat :=
  (List.range arguments.length).filter (isPath arguments)

/-- The flag acts at this place: it occurs here first, and an argument follows. -/
structure ActsAt (flag : String) (arguments : List String) (i : Nat) : Prop where
  here : arguments[i]? = some flag
  first : ∀ j < i, arguments[j]? ≠ some flag
  followed : i + 1 < arguments.length

/-! ## Roles -/

/-- What an argument is used as. -/
inductive Role where
  /-- The path with this number: the template is the first one, the model the second one. -/
  | path (number : Nat)
  /-- The value of the flag. -/
  | value (flag : String)
  /-- The flag itself. -/
  | flag (name : String)
deriving DecidableEq

/-- The argument at this place is used as this. -/
def HasRole (arguments : List String) (i : Nat) : Role → Prop
  | .path number => (pathPlaces arguments)[number]? = some i
  | .value flag => takesValue flag = true ∧ ∃ j, i = j + 1 ∧ ActsAt flag arguments j
  | .flag name => takesValue name = true ∧ ActsAt name arguments i ∨
      name = textFlag ∧ arguments[i]? = some textFlag

/-- No value of a flag is used as anything else. -/
def HasOneRole (arguments : List String) : Prop :=
  ∀ i flag role, HasRole arguments i (.value flag) → HasRole arguments i role → role = .value flag

/-- What stands at the place with this role. -/
def Finds (arguments : List String) (role : Role) (argument : String) : Prop :=
  ∃ i, HasRole arguments i role ∧ arguments[i]? = some argument

/-! ## The scan for paths -/

theorem isFlag_of_takesValue {argument : String} (h : takesValue argument = true) :
    isFlag argument = true := by
  rw [takesValue, Bool.or_eq_true, beq_iff_eq, beq_iff_eq] at h
  obtain rfl | rfl := h <;> decide

/-- Before a list, an argument that takes no value changes nothing but the places. -/
theorem isRead_cons {argument : String} (h : takesValue argument = false) (arguments : List String)
    (i : Nat) : isRead (argument :: arguments) (i + 1) = isRead arguments i := by
  induction i with
  | zero => simp [isRead, h]
  | succ i ih => rw [isRead, ih, List.getElem?_cons_succ, isRead]

/-- Nor does a flag with a value. -/
theorem isRead_cons_cons {argument : String} (h : takesValue argument = true) (value : String)
    (arguments : List String) (i : Nat) :
    isRead (argument :: value :: arguments) (i + 2) = isRead arguments i := by
  induction i with
  | zero => simp [isRead, h]
  | succ i ih =>
    rw [isRead, ih, List.getElem?_cons_succ, List.getElem?_cons_succ, isRead]

theorem mem_pathPlaces {arguments : List String} {i : Nat} :
    i ∈ pathPlaces arguments ↔ isPath arguments i = true := by
  rw [pathPlaces, List.mem_filter, List.mem_range, and_iff_right_iff_imp]
  intro h
  rw [isPath, Bool.and_eq_true, Option.any_eq_true] at h
  obtain ⟨-, argument, hargument, -⟩ := h
  exact (List.getElem?_eq_some_iff.1 hargument).1

/-- The places below a bound with a property, from those one place further. -/
theorem filter_range_succ (p : Nat → Bool) (n : Nat) :
    (List.range (n + 1)).filter p =
      (if p 0 then [0] else []) ++ ((List.range n).filter fun i => p (i + 1)).map (· + 1) := by
  rw [List.range_succ_eq_map, List.filter_cons, List.filter_map]
  cases p 0 <;> rfl

theorem pathPlaces_cons {argument : String} (h : takesValue argument = false)
    (arguments : List String) :
    pathPlaces (argument :: arguments) =
      (if isFlag argument then [] else [0]) ++ (pathPlaces arguments).map (· + 1) := by
  have hshift (i : Nat) : isPath (argument :: arguments) (i + 1) = isPath arguments i := by
    rw [isPath, isRead_cons h, List.getElem?_cons_succ, isPath]
  have hhere : isPath (argument :: arguments) 0 = !isFlag argument := by simp [isPath, isRead]
  rw [pathPlaces, List.length_cons, filter_range_succ, hhere]
  simp only [hshift]
  cases isFlag argument <;> rfl

theorem pathPlaces_cons_cons {argument : String} (h : takesValue argument = true) (value : String)
    (arguments : List String) :
    pathPlaces (argument :: value :: arguments) = (pathPlaces arguments).map (· + 2) := by
  have hshift (i : Nat) :
      isPath (argument :: value :: arguments) (i + 2) = isPath arguments i := by
    rw [isPath, isRead_cons_cons h, List.getElem?_cons_succ, List.getElem?_cons_succ, isPath]
  have hflag : isPath (argument :: value :: arguments) 0 = false := by
    simp [isPath, isFlag_of_takesValue h]
  have hvalue : isPath (argument :: value :: arguments) 1 = false := by simp [isPath, isRead, h]
  rw [pathPlaces, List.length_cons, List.length_cons, filter_range_succ, filter_range_succ, hflag,
    hvalue]
  simp only [hshift, Bool.false_eq_true, if_false, List.nil_append, List.map_map]
  rfl

/-- **The paths are what stands in their places.** -/
theorem positionals_eq (arguments : List String) :
    positionals arguments = (pathPlaces arguments).map fun i => arguments.getD i "" := by
  fun_induction positionals arguments with
  | case1 => rfl
  | case2 argument hflag => simp [pathPlaces, isPath, hflag]
  | case3 argument hflag => simp [pathPlaces, isPath, isRead, hflag]
  | case4 argument next arguments htakes ih =>
    rw [pathPlaces_cons_cons htakes, List.map_map, ih]
    rfl
  | case5 argument next arguments htakes hflag ih =>
    rw [Bool.not_eq_true] at htakes
    rw [pathPlaces_cons htakes, if_pos hflag, List.nil_append, List.map_map, ih]
    rfl
  | case6 argument next arguments htakes hflag ih =>
    rw [Bool.not_eq_true] at htakes
    rw [pathPlaces_cons htakes, if_neg hflag, List.singleton_append, List.map_cons, List.map_map,
      ih]
    rfl

/-- A path is found by its number. -/
theorem getElem?_positionals (arguments : List String) (number : Nat) (path : String) :
    (positionals arguments)[number]? = some path ↔ Finds arguments (.path number) path := by
  rw [positionals_eq, List.getElem?_map, Option.map_eq_some_iff]
  refine exists_congr fun i => and_congr_right fun hplace => ?_
  have hmem := mem_pathPlaces.1 (List.mem_of_getElem? hplace)
  rw [isPath, Bool.and_eq_true, Option.any_eq_true] at hmem
  obtain ⟨-, argument, hargument, -⟩ := hmem
  rw [List.getD_eq_getElem?_getD, hargument, Option.getD_some, Option.some_inj]

/-! ## The scans for flags -/

theorem actsAt_cons_zero {flag argument : String} {arguments : List String} :
    ActsAt flag (argument :: arguments) 0 ↔ argument = flag ∧ arguments ≠ [] := by
  constructor
  · intro h
    exact ⟨Option.some_inj.1 h.here, List.ne_nil_of_length_pos (Nat.lt_of_succ_lt_succ h.followed)⟩
  · rintro ⟨rfl, hfollowed⟩
    exact ⟨rfl, fun j hj => absurd hj (Nat.not_lt_zero j),
      Nat.succ_lt_succ (List.length_pos_iff.2 hfollowed)⟩

theorem actsAt_cons_succ {flag argument : String} {arguments : List String} {i : Nat} :
    ActsAt flag (argument :: arguments) (i + 1) ↔ argument ≠ flag ∧ ActsAt flag arguments i := by
  constructor
  · intro h
    refine ⟨fun heq => h.first 0 (Nat.succ_pos i) (congrArg some heq), h.here, fun j hj => ?_,
      Nat.lt_of_succ_lt_succ h.followed⟩
    exact h.first (j + 1) (Nat.succ_lt_succ hj)
  · rintro ⟨hne, h⟩
    refine ⟨h.here, fun j hj => ?_, Nat.succ_lt_succ h.followed⟩
    cases j with
    | zero => exact fun heq => hne (Option.some_inj.1 heq)
    | succ j => exact h.first j (Nat.lt_of_succ_lt_succ hj)

/-- **The value of a flag is what follows where it acts.** -/
theorem valueOf?_eq_some {flag value : String} {arguments : List String} :
    valueOf? flag arguments = some value ↔
      ∃ i, ActsAt flag arguments i ∧ arguments[i + 1]? = some value := by
  fun_induction valueOf? flag arguments with
  | case1 argument next arguments heq =>
    rw [beq_iff_eq] at heq
    constructor
    · intro hvalue
      exact ⟨0, actsAt_cons_zero.2 ⟨heq, List.cons_ne_nil _ _⟩, hvalue⟩
    · rintro ⟨i, hacts, hvalue⟩
      cases i with
      | zero => exact hvalue
      | succ i => exact absurd heq (actsAt_cons_succ.1 hacts).1
  | case2 argument next arguments hne ih =>
    rw [beq_iff_eq] at hne
    rw [ih]
    constructor
    · rintro ⟨i, hacts, hvalue⟩
      exact ⟨i + 1, actsAt_cons_succ.2 ⟨hne, hacts⟩, hvalue⟩
    · rintro ⟨i, hacts, hvalue⟩
      cases i with
      | zero => exact absurd (actsAt_cons_zero.1 hacts).1 hne
      | succ i => exact ⟨i, (actsAt_cons_succ.1 hacts).2, hvalue⟩
  | case3 arguments hshort =>
    refine iff_of_false (by simp) ?_
    rintro ⟨i, hacts, -⟩
    match arguments with
    | [] => exact absurd hacts.followed (Nat.not_lt_zero _)
    | [argument] => exact absurd hacts.followed (by simp)
    | argument :: next :: arguments => exact hshort argument next arguments rfl

/-- A flag with a value finds it. -/
theorem valueOf?_eq_some_iff_finds {flag value : String} (h : takesValue flag = true)
    {arguments : List String} :
    valueOf? flag arguments = some value ↔ Finds arguments (.value flag) value := by
  rw [valueOf?_eq_some]
  constructor
  · rintro ⟨i, hacts, hvalue⟩
    exact ⟨i + 1, ⟨h, i, rfl, hacts⟩, hvalue⟩
  · rintro ⟨_, ⟨-, i, rfl, hacts⟩, hvalue⟩
    exact ⟨i, hacts, hvalue⟩

/-! ## Values with another role -/

/-- A value is read as a path exactly if its flag has been passed over and it is no flag itself. -/
theorem isPath_value {flag : String} (hflag : takesValue flag = true) {arguments : List String}
    {i : Nat} (hacts : ActsAt flag arguments i) :
    isPath arguments (i + 1) = true ↔
      isRead arguments i = false ∧ arguments[i + 1]?.any isFlag = false := by
  rw [isPath, isRead, hacts.here, Option.any_some, hflag, Bool.and_true,
    List.getElem?_eq_getElem hacts.followed]
  simp

/-- **When each value has one role.**  A value of a flag has another role as well exactly if it asks
for plain text, if it is the other flag where that acts, or if it is read as a path. -/
theorem hasOneRole_iff_forall {arguments : List String} :
    HasOneRole arguments ↔
      ∀ flag i, takesValue flag = true → ActsAt flag arguments i →
        arguments[i + 1]? ≠ some textFlag ∧
          (∀ other, takesValue other = true → ¬ ActsAt other arguments (i + 1)) ∧
          (isRead arguments i = true ∨ arguments[i + 1]?.any isFlag = true) := by
  constructor
  · intro hone flag i hflag hacts
    have hvalue : HasRole arguments (i + 1) (.value flag) := ⟨hflag, i, rfl, hacts⟩
    refine ⟨fun htext => ?text, fun other hother hat => ?other, ?path⟩
    case text => cases hone _ _ (.flag textFlag) hvalue (.inr ⟨rfl, htext⟩)
    case other => cases hone _ _ (.flag other) hvalue (.inl ⟨hother, hat⟩)
    case path =>
      by_contra hneither
      rw [not_or, Bool.not_eq_true, Bool.not_eq_true] at hneither
      obtain ⟨number, hnumber⟩ := List.mem_iff_getElem?.1
        (mem_pathPlaces.2 ((isPath_value hflag hacts).2 hneither))
      cases hone _ _ (.path number) hvalue hnumber
  · rintro hall _ flag role ⟨hflag, i, rfl, hacts⟩ hrole
    obtain ⟨htext, hother, hread⟩ := hall flag i hflag hacts
    cases role with
    | path number =>
      have hpath := mem_pathPlaces.1 (List.mem_of_getElem? hrole)
      obtain ⟨hpassed, hno⟩ := (isPath_value hflag hacts).1 hpath
      simp [hpassed, hno] at hread
    | value other =>
      obtain ⟨-, j, hj, hat⟩ := hrole
      cases hj
      rw [Option.some_inj.1 (hacts.here.symm.trans hat.here)]
    | flag name =>
      obtain ⟨hname, hat⟩ | ⟨rfl, hat⟩ := hrole
      · exact absurd hat (hother name hname)
      · exact absurd hat htext

/-- It is enough that no argument after a flag that takes a value begins with a dash. -/
theorem hasOneRole_of_plain_values {arguments : List String}
    (h : ∀ i flag value, arguments[i]? = some flag → takesValue flag = true →
      arguments[i + 1]? = some value → isFlag value = false) : HasOneRole arguments := by
  rw [hasOneRole_iff_forall]
  intro flag i hflag hacts
  have hplain (argument : String) (hat : arguments[i + 1]? = some argument) :
      isFlag argument = false := h i flag argument hacts.here hflag hat
  refine ⟨fun htext => ?text, fun other hother hat => ?other, .inl ?read⟩
  case text => exact absurd (hplain _ htext) (by decide)
  case other => exact absurd (isFlag_of_takesValue hother) (by simp [hplain _ hat.here])
  case read =>
    -- the flag itself is not the value of a flag before it
    cases i with
    | zero => rfl
    | succ i =>
      rw [isRead, Bool.not_eq_true', Bool.and_eq_false_iff, Option.any_eq_false]
      refine .inr fun before hbefore => Bool.eq_false_iff.2 fun htakes => ?_
      have hdash := h i before flag hbefore htakes hacts.here
      rw [isFlag_of_takesValue hflag] at hdash
      cases hdash

/-- **The roles of arguments.**  What is asked for stands in the places with a role: the first two
paths are the template and the model, the values are the files of the output and of the options,
and any `--text` asks for plain text.  Each value has this one role exactly if it is not `--text`,
not the other flag where that acts, and not read as a path because its flag was passed over. -/
theorem hasOneRole_iff (arguments : List String) :
    ((∀ path, (ofList arguments).template = some path ↔ Finds arguments (.path 0) path) ∧
      (∀ path, (ofList arguments).model = some path ↔ Finds arguments (.path 1) path) ∧
      (∀ path, (ofList arguments).output = some path ↔ Finds arguments (.value outputFlag) path) ∧
      (∀ path, (ofList arguments).options = some path ↔
        Finds arguments (.value optionsFlag) path) ∧
      ((ofList arguments).asText = true ↔ ∃ i, HasRole arguments i (.flag textFlag))) ∧
    (HasOneRole arguments ↔
      ∀ flag i, takesValue flag = true → ActsAt flag arguments i →
        arguments[i + 1]? ≠ some textFlag ∧
          (∀ other, takesValue other = true → ¬ ActsAt other arguments (i + 1)) ∧
          (isRead arguments i = true ∨ arguments[i + 1]?.any isFlag = true)) := by
  refine ⟨⟨getElem?_positionals arguments 0, getElem?_positionals arguments 1,
    fun path => valueOf?_eq_some_iff_finds (by decide),
    fun path => valueOf?_eq_some_iff_finds (by decide), ?text⟩, hasOneRole_iff_forall⟩
  case text =>
    have htext : takesValue textFlag = false := by decide
    simp [ofList, HasRole, htext, List.mem_iff_getElem?]

/-- The flag of the options in the place of the file to write. -/
def optionsFlagAsOutput : List String :=
  ["-o", "--options", "t.json"]

/-- **Two places with two roles.**  The flag of the options is the file to write, and asks for
options as well.  Its value is the file of the options, and the template. -/
theorem optionsFlagAsOutput_two_roles :
    ofList optionsFlagAsOutput =
        { wantsExample := false, template := some "t.json", model := none,
          output := some "--options", options := some "t.json", asText := false } ∧
      (HasRole optionsFlagAsOutput 1 (.value "-o") ∧
        HasRole optionsFlagAsOutput 1 (.flag "--options")) ∧
      (HasRole optionsFlagAsOutput 2 (.value "--options") ∧
        HasRole optionsFlagAsOutput 2 (.path 0)) ∧
      ¬ HasOneRole optionsFlagAsOutput := by
  have hoptions : ActsAt "--options" optionsFlagAsOutput 1 := ⟨rfl, by decide, by decide⟩
  have hvalue : HasRole optionsFlagAsOutput 2 (.value "--options") :=
    ⟨by decide, 1, rfl, hoptions⟩
  have hpath : HasRole optionsFlagAsOutput 2 (.path 0) := by
    show (pathPlaces optionsFlagAsOutput)[0]? = some 2
    decide
  have houtput : HasRole optionsFlagAsOutput 1 (.value "-o") :=
    ⟨by decide, 0, rfl, rfl, by decide, by decide⟩
  refine ⟨by decide, ⟨houtput, .inl ⟨by decide, hoptions⟩⟩, ⟨hvalue, hpath⟩, fun hone => ?_⟩
  cases hone 2 "--options" (.path 0) hvalue hpath

end Arguments

end Bindery
