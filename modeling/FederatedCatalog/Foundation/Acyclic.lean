import Mathlib.Data.Fintype.Card
import Mathlib.Logic.Relation
import Mathlib.Order.Lattice

/-!
# Finite graphs without cycles

Induction along the edges from a node is possible in a finite graph when no
cycle can be reached from there.
-/

namespace FederatedCatalog.Foundation

universe u

variable {Node : Type u} {edge : Node → Node → Prop}

def LeadsToCycle (edge : Node → Node → Prop) (start : Node) : Prop :=
  ∃ node, Relation.ReflTransGen edge start node ∧ Relation.TransGen edge node node

/-- One node comes after another one that is reached from the start. -/
def Later (edge : Node → Node → Prop) (start next node : Node) : Prop :=
  Relation.ReflTransGen edge start node ∧ Relation.TransGen edge node next

theorem later_wellFounded [Finite Node] {start : Node} (acyclic : ¬LeadsToCycle edge start) :
    WellFounded (Later edge start) := by
  have transitive : IsTrans Node (Later edge start) :=
    ⟨fun _ _ _ second first => ⟨first.1, first.2.trans second.2⟩⟩
  have irreflexive : Std.Irrefl (Later edge start) := ⟨fun node cycle => acyclic ⟨node, cycle⟩⟩
  exact Finite.wellFounded_of_trans_of_irrefl _

theorem acc_of_no_cycle [Finite Node] {start : Node} (acyclic : ¬LeadsToCycle edge start) :
    Acc (fun next node => edge node next) start := by
  have reached : ∀ node, Relation.ReflTransGen edge start node →
      Acc (fun next node => edge node next) node := by
    intro node
    induction node using (later_wellFounded acyclic).induction with
    | h node inductionHypothesis =>
        intro path
        constructor
        intro next step
        exact inductionHypothesis next ⟨path, .single step⟩ (path.tail step)
  exact reached start .refl

theorem exists_common_bound {Item : Type u} {bounded : Item → Nat → Prop}
    (weaken : ∀ item first second, first ≤ second → bounded item first → bounded item second)
    (items : List Item) (each : ∀ item ∈ items, ∃ bound, bounded item bound) :
    ∃ bound, ∀ item ∈ items, bounded item bound := by
  induction items with
  | nil => exact ⟨0, by simp⟩
  | cons item rest inductionHypothesis =>
      obtain ⟨own, ownBound⟩ := each item List.mem_cons_self
      obtain ⟨common, commonBound⟩ := inductionHypothesis fun other listed =>
        each other (List.mem_cons_of_mem _ listed)
      refine ⟨max own common, ?_⟩
      intro other listed
      rcases List.mem_cons.mp listed with rfl | later
      · exact weaken _ _ _ (le_max_left own common) ownBound
      · exact weaken _ _ _ (le_max_right own common) (commonBound other later)

end FederatedCatalog.Foundation
