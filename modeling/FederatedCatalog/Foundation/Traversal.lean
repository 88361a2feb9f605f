import Mathlib.Data.List.Basic
import Mathlib.Data.List.Forall2
import Mathlib.Data.List.Nodup

/-!
# Walking a tree

A walk that enters a node and then visits its children, passing one state
along, is a fold over the nodes in pre-order.  A list that takes an item only
while its key is new keeps the first item of every key.
-/

namespace FederatedCatalog.Foundation

universe u v w

structure Descent (Node : Type u) where
  children : Node → List Node
  wellFounded : WellFounded fun child node => child ∈ children node

namespace Descent

variable {Node : Type u} {State : Type v} (descent : Descent Node)

/-- A node, then what is below each of its children. -/
def preOrder (node : Node) : List Node :=
  node :: (descent.children node).attach.flatMap fun child => preOrder child.1
termination_by descent.wellFounded.wrap node
decreasing_by exact child.2

theorem preOrder_eq (node : Node) :
    descent.preOrder node = node :: (descent.children node).flatMap descent.preOrder := by
  rw [preOrder]
  simp [List.flatMap_def]

/-- A node inherits what all its children have. -/
theorem induction {property : Node → Prop}
    (inherits : ∀ node, (∀ child ∈ descent.children node, property child) → property node)
    (node : Node) : property node :=
  descent.wellFounded.induction node inherits

variable {visit : Node → State → State} {enter : State → Node → State}

theorem visit_eq_foldl
    (unfolds : ∀ node state, visit node state =
      (descent.children node).foldl (fun state child => visit child state) (enter state node))
    (node : Node) (state : State) :
    visit node state = (descent.preOrder node).foldl enter state := by
  induction node using descent.induction generalizing state with
  | inherits node inductionHypothesis =>
      rw [unfolds, preOrder_eq, List.foldl_cons]
      generalize enter state node = entered
      generalize descent.children node = children at inductionHypothesis
      induction children generalizing entered with
      | nil => rfl
      | cons child rest restHypothesis =>
          rw [List.foldl_cons, List.flatMap_cons, List.foldl_append,
            ← inductionHypothesis child List.mem_cons_self]
          apply restHypothesis
          intro other membership
          exact inductionHypothesis other (List.mem_cons_of_mem child membership)

end Descent

section First

variable {Item : Type u} {Key : Type v} [DecidableEq Key] (key : Item → Key)

def addNew (listed : List Item) (item : Item) : List Item :=
  if listed.any fun other => key other = key item then listed else listed ++ [item]

def firsts (items : List Item) : List Item := items.foldl (addNew key) []

variable {key}

theorem addNew_nodup {listed : List Item} (distinct : (listed.map key).Nodup) (item : Item) :
    ((addNew key listed item).map key).Nodup := by
  unfold addNew
  split
  · exact distinct
  · next fresh =>
    rw [List.map_append, List.map_singleton, List.nodup_append]
    refine ⟨distinct, List.nodup_singleton _, ?_⟩
    intro name named other single same
    obtain ⟨earlier, membership, rfl⟩ := List.mem_map.mp named
    rw [List.mem_singleton] at single
    refine fresh (List.any_eq_true.mpr ⟨earlier, membership, ?_⟩)
    exact decide_eq_true (same.trans single)

theorem foldl_addNew_nodup {listed : List Item} (distinct : (listed.map key).Nodup)
    (items : List Item) : ((items.foldl (addNew key) listed).map key).Nodup := by
  induction items generalizing listed with
  | nil => exact distinct
  | cons item rest inductionHypothesis => exact inductionHypothesis (addNew_nodup distinct item)

theorem firsts_nodup (items : List Item) : ((firsts key items).map key).Nodup :=
  foldl_addNew_nodup (by simp) items

theorem foldl_addNew_of_nodup {listed items : List Item}
    (distinct : ((listed ++ items).map key).Nodup) :
    items.foldl (addNew key) listed = listed ++ items := by
  induction items generalizing listed with
  | nil => simp
  | cons item rest inductionHypothesis =>
      have unlisted : (listed.any fun other => key other = key item) = false := by
        rw [List.any_eq_false]
        intro other membership same
        rw [List.map_append, List.nodup_append] at distinct
        have earlier : key item ∈ listed.map key :=
          List.mem_map.mpr ⟨other, membership, of_decide_eq_true same⟩
        exact distinct.2.2 _ earlier _ List.mem_cons_self rfl
      have taken : addNew key listed item = listed ++ [item] := by
        rw [addNew, unlisted]
        rfl
      rw [List.append_cons] at distinct
      rw [List.foldl_cons, taken, inductionHypothesis distinct, ← List.append_cons]

theorem map_foldl_addNew {Shown : Type w} {show_ : Item → Shown} {name : Shown → Key}
    (kept : ∀ item, name (show_ item) = key item) (items listed : List Item) :
    (items.foldl (addNew key) listed).map show_ =
      (items.map show_).foldl (addNew name) (listed.map show_) := by
  induction items generalizing listed with
  | nil => rfl
  | cons item rest inductionHypothesis =>
      have one : (addNew key listed item).map show_ =
          addNew name (listed.map show_) (show_ item) := by
        unfold addNew
        rw [List.any_map]
        simp only [Function.comp_def, kept]
        split <;> simp
      rw [List.foldl_cons, inductionHypothesis, one, List.map_cons, List.foldl_cons]

theorem map_firsts {Shown : Type w} {show_ : Item → Shown} {name : Shown → Key}
    (kept : ∀ item, name (show_ item) = key item) (items : List Item) :
    (firsts key items).map show_ = firsts name (items.map show_) :=
  map_foldl_addNew kept items []

theorem find?_addNew (listed : List Item) (item : Item) (name : Key) :
    (addNew key listed item).find? (fun other => key other = name) =
      (listed ++ [item]).find? fun other => key other = name := by
  unfold addNew
  split
  · next known =>
    obtain ⟨earlier, membership, same⟩ := List.any_eq_true.mp known
    rw [List.find?_append]
    by_cases named : key item = name
    · have found : (listed.find? fun other => key other = name).isSome = true := by
        rw [List.find?_isSome]
        refine ⟨earlier, membership, ?_⟩
        rw [decide_eq_true_eq] at same ⊢
        exact same.trans named
      rw [Option.or_of_isSome found]
    · simp [named]
  · rfl

theorem find?_foldl_addNew (items listed : List Item) (name : Key) :
    (items.foldl (addNew key) listed).find? (fun other => key other = name) =
      (listed ++ items).find? fun other => key other = name := by
  induction items generalizing listed with
  | nil => simp
  | cons item rest inductionHypothesis =>
      rw [List.foldl_cons, inductionHypothesis, List.find?_append, find?_addNew,
        ← List.find?_append, List.append_assoc, List.singleton_append]

theorem find?_firsts (items : List Item) (name : Key) :
    (firsts key items).find? (fun other => key other = name) =
      items.find? fun other => key other = name := by
  rw [firsts, find?_foldl_addNew, List.nil_append]

theorem mem_keys_iff {items : List Item} {name : Key} :
    name ∈ items.map key ↔ (items.find? fun other => key other = name).isSome = true := by
  rw [List.find?_isSome, List.mem_map]
  simp

theorem mem_firsts_keys {items : List Item} {name : Key} :
    name ∈ (firsts key items).map key ↔ name ∈ items.map key := by
  rw [mem_keys_iff, mem_keys_iff, find?_firsts]

/-- A key that occurs is kept once. -/
theorem countP_firsts {items : List Item} {name : Key} (occurs : name ∈ items.map key) :
    (firsts key items).countP (fun other => key other = name) = 1 := by
  have once := List.count_eq_one_of_mem (firsts_nodup items) (mem_firsts_keys.mpr occurs)
  rw [List.count, List.countP_map] at once
  rw [← once]
  apply List.countP_congr
  intro item _
  simp

end First

section Read

variable {Source : Type u} {Item : Type v} {Other : Type w}

/-- Every source reads as the item at its place. -/
abbrev ReadAs (read : Source → Option Item) : List Source → List Item → Prop :=
  List.Forall₂ fun source item => read source = some item

theorem readAs_of_mapM {read : Source → Option Item} {sources : List Source} {items : List Item}
    (all : sources.mapM read = some items) : ReadAs read sources items := by
  induction sources generalizing items with
  | nil =>
      cases all
      exact .nil
  | cons source rest inductionHypothesis =>
      rw [List.mapM_cons] at all
      obtain ⟨item, first, all⟩ := Option.bind_eq_some_iff.mp all
      obtain ⟨others, later, same⟩ := Option.bind_eq_some_iff.mp all
      cases same
      exact .cons first (inductionHypothesis later)

variable {read : Source → Option Item} {sources : List Source} {items : List Item}

theorem ReadAs.of_mem (all : ReadAs read sources items) {source : Source}
    (listed : source ∈ sources) : ∃ item, read source = some item := by
  induction all with
  | nil => cases listed
  | cons first _ inductionHypothesis =>
      rcases List.mem_cons.mp listed with rfl | later
      · exact ⟨_, first⟩
      · exact inductionHypothesis later

theorem ReadAs.filterMap_eq {tolerant : Source → Option Other} {agrees : Item → Other}
    (all : ReadAs read sources items)
    (accepts : ∀ source ∈ sources, ∀ item, read source = some item →
      tolerant source = some (agrees item)) :
    sources.filterMap tolerant = items.map agrees := by
  induction all with
  | nil => rfl
  | cons first _ inductionHypothesis =>
      rw [List.filterMap_cons_some (accepts _ List.mem_cons_self _ first), List.map_cons,
        inductionHypothesis fun source listed => accepts source (List.mem_cons_of_mem _ listed)]

theorem ReadAs.flatMap_eq {parts : Source → List Other} {expected : Item → List Other}
    (all : ReadAs read sources items)
    (each : ∀ source ∈ sources, ∀ item, read source = some item → parts source = expected item) :
    sources.flatMap parts = items.flatMap expected := by
  induction all with
  | nil => rfl
  | cons first _ inductionHypothesis =>
      rw [List.flatMap_cons, List.flatMap_cons, each _ List.mem_cons_self _ first,
        inductionHypothesis fun source listed => each source (List.mem_cons_of_mem _ listed)]

end Read

end FederatedCatalog.Foundation
