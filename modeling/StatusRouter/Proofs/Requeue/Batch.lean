import Mathlib.Data.List.Sort
import Mathlib.Data.Prod.Lex
import Mathlib.Data.String.Basic
import StatusRouter.Routing.ResourceId

/-!
# Batches

The keys of a batch are kept in order, each once: a key that is put among them comes to its place, and
nothing changes if it is there.  A list in order is known by its members, so a batch does not tell in
which order its keys were waiting, or how often (`ResourceId.toSet_congr`).
-/

namespace StatusRouter

namespace ResourceId

/-- The place of a key in the order of keys. -/
def place (id : ResourceId) : String ×ₗ String := toLex (id.namespace, id.name)

theorem place_injective : Function.Injective place := by
  rintro ⟨ns, name⟩ ⟨ns', name'⟩ h
  obtain ⟨rfl, rfl⟩ := Prod.mk.injEq .. ▸ toLex.injective h
  rfl

theorem precedes_iff {a b : ResourceId} : a.precedes b = true ↔ a.place ≤ b.place := by
  simp [precedes, place, Prod.Lex.toLex_le_toLex]

/-- The keys stand in order, and none of them twice. -/
def InOrder (ids : List ResourceId) : Prop :=
  ids.Pairwise fun a b => a.place < b.place

theorem InOrder.nodup {ids : List ResourceId} (h : InOrder ids) : ids.Nodup :=
  h.imp fun hlt heq => hlt.ne (congrArg place heq)

theorem InOrder.insertOnce {ids : List ResourceId} (h : InOrder ids) (id : ResourceId) :
    InOrder (insertOnce id ids) := by
  induction ids with
  | nil => exact List.pairwise_singleton _ id
  | cons other rest ih =>
      obtain ⟨hfirst, hrest⟩ := List.pairwise_cons.mp h
      unfold ResourceId.insertOnce
      split
      · exact h
      · rename_i hne
        split
        · rename_i hprecedes
          have hlt : id.place < other.place :=
            lt_of_le_of_ne (precedes_iff.mp hprecedes) fun heq => hne (place_injective heq)
          refine List.pairwise_cons.mpr ⟨fun later hlater => ?_, h⟩
          rcases List.mem_cons.mp hlater with rfl | hlater
          · exact hlt
          · exact hlt.trans (hfirst later hlater)
        · rename_i hfollows
          have hlt : other.place < id.place := not_le.mp fun hle => hfollows (precedes_iff.mpr hle)
          refine List.pairwise_cons.mpr ⟨fun later hlater => ?_, ih hrest⟩
          rcases mem_insertOnce.mp hlater with rfl | hlater
          · exact hlt
          · exact hfirst later hlater

theorem place_lt_iff {a b : ResourceId} :
    a.place < b.place ↔ a.namespace < b.namespace ∨ a.namespace = b.namespace ∧ a.name < b.name :=
  Prod.Lex.toLex_lt_toLex

/-- Lists in order are equal if they have the same members. -/
theorem InOrder.eq_of_mem_iff {ids others : List ResourceId} (h : InOrder ids)
    (hothers : InOrder others) (hmem : ∀ id, id ∈ ids ↔ id ∈ others) : ids = others := by
  have hirrefl : Std.Irrefl fun a b : ResourceId => a.place < b.place := ⟨fun a => lt_irrefl a.place⟩
  have hantisymm : Std.Antisymm fun a b : ResourceId => a.place < b.place :=
    ⟨fun a b hlt hgt => absurd hgt hlt.asymm⟩
  exact List.Pairwise.eq_of_mem_iff h hothers hmem

/-! ## The keys that were waiting -/

theorem inOrder_toSet (waiting : List ResourceId) : InOrder (toSet waiting) :=
  List.foldlRecOn _ _ List.Pairwise.nil fun _ hset id _ => hset.insertOnce id

/-- A batch depends on nothing but which keys were waiting. -/
theorem toSet_congr {waiting others : List ResourceId}
    (h : ∀ id, id ∈ waiting ↔ id ∈ others) : toSet waiting = toSet others := by
  refine (inOrder_toSet waiting).eq_of_mem_iff (inOrder_toSet others) fun id => ?_
  rw [mem_toSet, mem_toSet, h id]

end ResourceId

end StatusRouter
