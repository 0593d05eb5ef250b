import Mathlib.Data.List.Forall2

/-!
Passes over lists that end at the first item that fails. They succeed if every item does
(`exists_mapM_iff`), and then give the results in the order of the items (`mapM_ok_iff`).
-/
namespace ThreatAnalysis
variable {α β ε : Type} {f : α → Except ε β} {list : List α} {results : List β}

theorem bind_ok_iff {first : Except ε α} {result : β} :
    first >>= f = .ok result ↔ ∃ value, first = .ok value ∧ f value = .ok result := by
  cases first with
  | error error => simp [bind, Except.bind]
  | ok value => simp [bind, Except.bind]

theorem mapM_cons_ok_iff {head : α} :
    (head :: list).mapM f = .ok results ↔
      ∃ first rest, f head = .ok first ∧ list.mapM f = .ok rest ∧ results = first :: rest := by
  rw [List.mapM_cons]
  cases f head with
  | error error => simp [bind, Except.bind]
  | ok first =>
    cases list.mapM f with
    | error error => simp [bind, Except.bind]
    | ok rest => simp [bind, Except.bind, pure, Except.pure, eq_comm]

theorem mapM_ok_iff :
    list.mapM f = .ok results ↔
      List.Forall₂ (fun item result => f item = .ok result) list results := by
  induction list generalizing results with
  | nil =>
    rw [List.mapM_nil, List.forall₂_nil_left_iff]
    exact ⟨fun same => (Except.ok.inj same).symm, fun same => same ▸ rfl⟩
  | cons head rest ih =>
    rw [mapM_cons_ok_iff, List.forall₂_cons_left_iff]
    simp only [ih]

/-- A pass depends only on what becomes of the items. -/
theorem mapM_congr {g : α → Except ε β} (same : ∀ item ∈ list, f item = g item) :
    list.mapM f = list.mapM g := by
  induction list with
  | nil => rfl
  | cons head rest ih =>
    rw [List.forall_mem_cons] at same
    rw [List.mapM_cons, List.mapM_cons, same.1, ih same.2]

/-- Every result comes from an item. -/
theorem exists_of_mem_mapM (succeeded : list.mapM f = .ok results) {result : β}
    (member : result ∈ results) : ∃ item ∈ list, f item = .ok result := by
  induction list generalizing results with
  | nil =>
    cases succeeded
    cases member
  | cons head rest ih =>
    obtain ⟨first, later, begun, ended, rfl⟩ := mapM_cons_ok_iff.mp succeeded
    rcases List.mem_cons.mp member with rfl | member
    · exact ⟨head, List.mem_cons_self, begun⟩
    · obtain ⟨item, listed, found⟩ := ih ended member
      exact ⟨item, List.mem_cons_of_mem head listed, found⟩

theorem exists_mapM_iff :
    (∃ results, list.mapM f = .ok results) ↔ ∀ item ∈ list, ∃ result, f item = .ok result := by
  induction list with
  | nil => simp [pure, Except.pure]
  | cons head rest ih =>
    rw [List.forall_mem_cons, ← ih]
    simp only [mapM_cons_ok_iff]
    constructor
    · rintro ⟨_, first, later, succeeded, all, -⟩
      exact ⟨⟨first, succeeded⟩, later, all⟩
    · rintro ⟨⟨first, succeeded⟩, later, all⟩
      exact ⟨_, first, later, succeeded, all, rfl⟩

/-- A pass that fails ends at an item that does. -/
theorem exists_of_mapM_error {error : ε} (failed : list.mapM f = .error error) :
    ∃ item ∈ list, f item = .error error := by
  induction list with
  | nil => cases failed
  | cons head rest ih =>
    rw [List.mapM_cons] at failed
    cases first : f head with
    | error cause =>
      refine ⟨head, List.mem_cons_self, ?_⟩
      simpa [first, bind, Except.bind] using failed
    | ok result =>
      cases later : rest.mapM f with
      | error cause =>
        obtain rfl : cause = error := by simpa [first, later, bind, Except.bind] using failed
        obtain ⟨item, listed, broken⟩ := ih later
        exact ⟨item, List.mem_cons_of_mem head listed, broken⟩
      | ok results => simp [first, later, bind, Except.bind, pure, Except.pure] at failed

/-- A pass of which each result is known, as far as the item has one. -/
theorem mapM_ok_iff_map {allowed : α → Prop} {g : α → β}
    (each : ∀ item ∈ list, ∀ result, f item = .ok result ↔ allowed item ∧ result = g item) :
    list.mapM f = .ok results ↔ (∀ item ∈ list, allowed item) ∧ results = list.map g := by
  induction list generalizing results with
  | nil => simp [pure, Except.pure, eq_comm]
  | cons head rest ih =>
    rw [List.forall_mem_cons] at each ⊢
    simp only [mapM_cons_ok_iff, each.1, ih each.2]
    constructor
    · rintro ⟨_, _, ⟨first, rfl⟩, ⟨others, rfl⟩, rfl⟩
      exact ⟨⟨first, others⟩, rfl⟩
    · rintro ⟨⟨first, others⟩, rfl⟩
      exact ⟨_, _, ⟨first, rfl⟩, ⟨others, rfl⟩, rfl⟩

end ThreatAnalysis
