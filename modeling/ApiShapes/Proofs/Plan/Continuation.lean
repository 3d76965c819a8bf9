import ApiShapes.Proofs.Plan.Uniqueness

/-!
# Plans that are continued

The fields of a class and the documents of a schema can be planned behind classes that are there
already, call after call on one list.  What is there only decides which names are taken: a call
succeeds behind a plan exactly if it succeeds alone and the classes it then adds are new to the plan,
and it adds the same classes and gives the same properties.  A call that fails leaves the beginning
of what it would have added.  Main statements: that success behind a plan is success alone with new
classes, and that a plan which is continued by any calls, failing ones among them, always keeps what
was there and never comes to hold two classes of one name in one namespace.
-/

namespace ApiShapes.Plan

/-- No class of the one list is the same as a class of the other. -/
def Apart (planned added : List Artifact) : Prop :=
  ∀ old ∈ planned, ∀ new ∈ added, ¬ old.SameClass new

/-! ## One call, behind a plan and alone -/

/--
A call whose names are tested in time succeeds behind a plan if it succeeds alone with classes that
are new to the plan.
-/
theorem Checked.outcome_eq_ok_iff
    {steps : List Step} (checked : Checked steps)
    {α : Type} (result value : α) (planned classes : List Artifact) :
    outcome result planned steps = (classes, .ok value) ↔
      ∃ added, outcome result [] steps = (added, .ok value) ∧
        classes = planned ++ added ∧ Apart planned added := by
  simp only [outcome_eq_ok, checked.faithful planned, checked.faithful []]
  constructor
  · rintro ⟨⟨added, isAccepted, isBehind, apart, new⟩, isResult⟩
    exact ⟨added, ⟨⟨added, isAccepted, rfl, apart, by simp⟩, isResult⟩, isBehind, new⟩
  · rintro ⟨added, ⟨⟨_, isAccepted, rfl, apart, -⟩, isResult⟩, isBehind, new⟩
    exact ⟨⟨added, isAccepted, isBehind, apart, new⟩, isResult⟩

/--
What is planned already decides which names are taken, and nothing else.  The fields of a class and
a document are planned behind it exactly if they are planned alone with classes that are all new to
it, and then the same classes join it in the same order and the properties are the same.
-/
theorem planned_behind_iff_alone (planned classes : List Artifact) :
    (∀ (name : String) (site : Site) (entries : Entries) (properties : List Property),
      addFields planned name site entries = (classes, .ok properties) ↔
        ∃ added, addFields [] name site entries = (added, .ok properties) ∧
          classes = planned ++ added ∧ Apart planned added) ∧
    (∀ (document ns : String) (pointer : Pointer) (node : Node),
      addDocument planned document ns pointer node = (classes, .ok ()) ↔
        ∃ added, addDocument [] document ns pointer node = (added, .ok ()) ∧
          classes = planned ++ added ∧ Apart planned added) := by
  constructor
  · intro name site entries properties
    exact (fieldSteps_checked _ name site).outcome_eq_ok_iff _ properties planned classes
  · intro document ns pointer node
    exact (documentSteps_checked document ns pointer node).outcome_eq_ok_iff _ () planned classes

/-! ## Any calls, one behind the other -/

/-- A call that adds to a plan. -/
inductive Addition where
  | fields (name : String) (site : Site) (entries : Entries)
  | document (document ns : String) (pointer : Pointer) (node : Node)

/-- The plan behind a call, also behind one that fails. -/
def extend (planned : List Artifact) : Addition → List Artifact
  | .fields name site entries => (addFields planned name site entries).1
  | .document document ns pointer node => (addDocument planned document ns pointer node).1

/-- The plan at the start of some calls and behind each of them. -/
def states (planned : List Artifact) (additions : List Addition) : List (List Artifact) :=
  additions.scanl extend planned

/-- Every call carries out steps that test their names in time. -/
theorem extend_eq_perform (planned : List Artifact) (addition : Addition) :
    ∃ steps, Checked steps ∧ extend planned addition = (perform planned steps).1 := by
  cases addition with
  | fields name site entries =>
      exact ⟨_, fieldSteps_checked _ name site, outcome_fst _ _ _⟩
  | document document ns pointer node =>
      exact ⟨_, documentSteps_checked document ns pointer node, outcome_fst _ _ _⟩

/-- A call keeps what was there. -/
theorem prefix_extend (planned : List Artifact) (addition : Addition) :
    planned <+: extend planned addition := by
  rcases extend_eq_perform planned addition with ⟨steps, -, isRun⟩
  rcases perform_added planned steps with ⟨added, -, grown⟩
  exact ⟨added, (isRun.trans grown).symm⟩

/--
Steps in which every class is emitted behind a test of its name keep the classes of a plan apart,
wherever they fail.
-/
theorem Checked.pairwise_perform
    {steps : List Step} (checked : Checked steps) {planned : List Artifact}
    (apart : planned.Pairwise fun left right => ¬ left.SameClass right) :
    (perform planned steps).1.Pairwise fun left right => ¬ left.SameClass right := by
  induction checked generalizing planned with
  | nil => exact apart
  | reject pointer problem steps => exact apart
  | @append first second before behind beforeIH behindIH =>
      have middleApart := beforeIH apart
      rw [perform_append]
      generalize perform planned first = reached at middleApart
      rcases reached with ⟨middle, _ | error⟩
      · exact behindIH middleApart
      · exact middleApart
  | @guarded steps artifact pointer inner unused ih =>
      rw [perform]
      split
      · exact apart
      · rename_i free
        have innerApart := ih apart
        have innerAdded := perform_added planned steps
        rw [perform_append]
        generalize perform planned steps = reached at innerApart innerAdded
        rcases reached with ⟨middle, _ | error⟩
        · refine List.pairwise_append.mpr ⟨innerApart, List.pairwise_singleton _ _, ?_⟩
          intro old isOld new isNew
          rw [List.mem_singleton.mp isNew]
          rcases innerAdded with ⟨added, isBeginning, grown⟩
          obtain rfl : middle = planned ++ added := grown
          rcases List.mem_append.mp isOld with wasPlanned | isInner
          · exact fun same => free (isTaken_iff.mpr ⟨old, wasPlanned, same⟩)
          · exact unused old (isBeginning.subset isInner)
        · exact innerApart

/-- A call brings in no class that is there already. -/
theorem pairwise_extend
    {planned : List Artifact}
    (apart : planned.Pairwise fun left right => ¬ left.SameClass right) (addition : Addition) :
    (extend planned addition).Pairwise fun left right => ¬ left.SameClass right := by
  rcases extend_eq_perform planned addition with ⟨steps, checked, isRun⟩
  rw [isRun]
  exact checked.pairwise_perform apart

@[simp]
theorem states_nil (planned : List Artifact) : states planned [] = [planned] := by
  rfl

/-- Behind the first call the states are those of the other calls on what it leaves. -/
@[simp]
theorem states_cons (planned : List Artifact) (addition : Addition) (additions : List Addition) :
    states planned (addition :: additions) =
      planned :: states (extend planned addition) additions := by
  rw [states, List.scanl_cons]
  rfl

/-- Every state keeps what was there at the start. -/
theorem prefix_of_mem_states
    {planned state : List Artifact} {additions : List Addition}
    (member : state ∈ states planned additions) : planned <+: state := by
  induction additions generalizing planned with
  | nil =>
      rw [states_nil, List.mem_singleton] at member
      exact member ▸ List.prefix_rfl
  | cons addition additions ih =>
      rw [states_cons, List.mem_cons] at member
      rcases member with rfl | later
      · exact List.prefix_rfl
      · exact (prefix_extend planned addition).trans (ih later)

/--
A plan that is continued, by calls that may fail wherever they do, keeps what was there before each
call in front, and if no two of its classes were the same at the start then no two ever are.
-/
theorem states_keep_classes (planned : List Artifact) (additions : List Addition) :
    (states planned additions).Pairwise (· <+: ·) ∧
    (planned.Pairwise (fun left right => ¬ left.SameClass right) →
      ∀ state ∈ states planned additions,
        state.Pairwise fun left right => ¬ left.SameClass right) := by
  induction additions generalizing planned with
  | nil => simp
  | cons addition additions ih =>
      rcases ih (extend planned addition) with ⟨grows, staysApart⟩
      rw [states_cons]
      constructor
      · refine List.pairwise_cons.mpr ⟨?_, grows⟩
        intro state member
        exact (prefix_extend planned addition).trans (prefix_of_mem_states member)
      · intro apart state member
        rcases List.mem_cons.mp member with rfl | later
        · exact apart
        · exact staysApart (pairwise_extend apart addition) state later

/-- Three calls on one plan: the first fails half-way, the second finds its name taken. -/
def brokenAdditions : List Addition :=
  [.fields "Order" ⟨"App", .empty, .root⟩ [("line", .map []), ("tags", .list [.null])],
    .fields "Order" ⟨"App", .empty, .root⟩ [("line", .list [.map []])],
    .fields "Order" ⟨"App", .empty, .root⟩ [("item", .list [.map []])]]

set_option maxRecDepth 20000 in
theorem broken_states_keep_classes :
    (states [] brokenAdditions).map (·.map (·.name)) =
      [[], ["OrderLine"], ["OrderLine"], ["OrderLine", "OrderItem", "OrderItemCollection"]] ∧
    ∀ state ∈ states [] brokenAdditions,
      state.Pairwise fun left right => ¬ left.SameClass right := by
  refine ⟨?_, (states_keep_classes [] brokenAdditions).2 .nil⟩
  rfl

end ApiShapes.Plan
