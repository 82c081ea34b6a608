import Mathlib.Algebra.Order.Field.Rat
import RtmpCore.Cluster.NodeRegistry

/-!
# Placement is optimal and fair

Which node should take a viewer, said without the registry's filters: the nodes
that may serve are ranked by their region, their role, whether they are sized,
and their exact load.  Placement picks nodes of the least rank and goes round
them.
-/

namespace RtmpCore.Cluster

open Selection List AList

/-- Viewers for each slot, or viewers alone where the number of slots is not
known. -/
def NodeStatus.exactLoad (node : NodeStatus) : ℚ :=
  if node.capacityViewers = 0 then node.activeViewers.toNat
  else node.activeViewers.toNat / node.capacityViewers.toNat

/-- What counts for a viewer, the most important first; less is better.  Without a
hint every region will do. -/
def NodeStatus.rank (regionHint : List UInt8) (node : NodeStatus) : Bool ×ₗ Bool ×ₗ Bool ×ₗ ℚ :=
  toLex (!decide (regionHint = [] ∨ node.region = regionHint), toLex (!decide (node.role = .edge),
      toLex (!decide (node.capacityViewers ≠ 0), node.exactLoad)))

namespace NodeRegistry

/-- A node of the registry that may take a viewer. -/
structure Eligible (r : NodeRegistry) (nowUnix : Int64) (node : NodeStatus) : Prop where
  listed : ∃ id row, r.nodes.lookup id = some row ∧ r.statusOf row nowUnix = node
  healthy : node.healthy = true
  staying : node.draining = false
  serving : node.role = .edge ∨ node.role = .origin
  roomy : node.capacityViewers = 0 ∨ node.activeViewers < node.capacityViewers

/-- No eligible node is better. -/
def IsBest (r : NodeRegistry) (regionHint : List UInt8) (nowUnix : Int64)
    (node : NodeStatus) : Prop :=
  r.Eligible nowUnix node ∧
    ∀ other, r.Eligible nowUnix other → node.rank regionHint ≤ other.rank regionHint

/-- The answers of so many calls, one after the other. -/
def locateCalls (regionHint : List UInt8) (nowUnix : Int64) :
    ℕ → NodeRegistry → List (Option NodeStatus)
  | 0, _ => []
  | calls + 1, r =>
    (r.locate regionHint nowUnix).1 ::
      locateCalls regionHint nowUnix calls (r.locate regionHint nowUnix).2

variable {r : NodeRegistry} {hint : List UInt8} {nowUnix : Int64}

/-! ## The nodes that may serve -/

variable {node candidate current : NodeStatus}

theorem mem_statuses : node ∈ r.statuses nowUnix ↔
      ∃ id row, r.nodes.lookup id = some row ∧ r.statusOf row nowUnix = node := by
  rw [statuses, mem_map]
  constructor
  · rintro ⟨⟨id, row⟩, hent, rfl⟩
    exact ⟨id, row, mem_lookup_iff.mpr hent, rfl⟩
  · rintro ⟨id, row, hrow, rfl⟩
    exact ⟨⟨id, row⟩, mem_lookup_iff.mp hrow, rfl⟩

theorem mem_eligible : node ∈ (r.statuses nowUnix).filter mayServe ↔ r.Eligible nowUnix node := by
  rw [mem_filter, mem_statuses]
  simp only [mayServe, Bool.and_eq_true, Bool.or_eq_true, decide_eq_true_eq, Bool.not_eq_true']
  constructor
  · rintro ⟨hlist, ⟨⟨hheal, hstaying⟩, hserv⟩, hroomy⟩
    exact ⟨hlist, hheal, hstaying, hserv, hroomy⟩
  · intro h
    exact ⟨h.listed, ⟨⟨h.healthy, h.staying⟩, h.serving⟩, h.roomy⟩

theorem nodup_statuses : (r.statuses nowUnix).Nodup := by
  have hids : (r.statuses nowUnix).map NodeStatus.id = r.nodes.keys := by
    rw [statuses, map_map]
    apply map_congr_left
    rintro ⟨id, row⟩ hent
    exact r.keyed id row (mem_lookup_iff.mpr hent)
  apply Nodup.of_map NodeStatus.id
  rw [hids]
  exact r.nodes.keys_nodup

/-! ## Comparing loads -/

theorem toNat_crossProduct (count size : UInt32) :
    (crossProduct count size).toNat = count.toNat * size.toNat := by
  apply Nat.mod_eq_of_lt
  calc
    count.toNat * size.toNat < 2 ^ 32 * 2 ^ 32 := Nat.mul_lt_mul'' count.toNat_lt size.toNat_lt

theorem ratio_lt_iff (hcand : candidate.capacityViewers ≠ 0) (hcur : current.capacityViewers ≠ 0) :
    crossProduct candidate.activeViewers current.capacityViewers <
        crossProduct current.activeViewers candidate.capacityViewers ↔
      candidate.exactLoad < current.exactLoad := by
  have hpos : ∀ size : UInt32, size ≠ 0 → (0 : ℚ) < size.toNat := by
    intro size hsize
    rw [Nat.cast_pos, Nat.pos_iff_ne_zero]
    exact fun hzero => hsize (UInt32.toNat_inj.mp hzero)
  rw [NodeStatus.exactLoad, NodeStatus.exactLoad, if_neg hcand, if_neg hcur,
    div_lt_div_iff₀ (hpos _ hcand) (hpos _ hcur), UInt64.lt_iff_toNat_lt,
    toNat_crossProduct, toNat_crossProduct]
  exact_mod_cast Iff.rfl

theorem compareLoad_sized
    (hcand : candidate.capacityViewers ≠ 0) (hcur : current.capacityViewers ≠ 0) :
    compareLoad true candidate current = compare candidate.exactLoad current.exactLoad := by
  rw [compareLoad, if_pos rfl, compare_eq_ite]
  simp only [ratio_lt_iff hcand hcur, ratio_lt_iff hcur hcand]

theorem compareLoad_unsized
    (hcand : candidate.capacityViewers = 0) (hcur : current.capacityViewers = 0) :
    compareLoad false candidate current = compare candidate.exactLoad current.exactLoad := by
  rw [compareLoad, if_neg Bool.false_ne_true, NodeStatus.exactLoad, NodeStatus.exactLoad,
    if_pos hcand, if_pos hcur, compare_eq_ite]
  simp only [Nat.cast_lt, UInt32.lt_iff_toNat_lt]

theorem compareLoad_prefer (nodes : List NodeStatus) :
    ∀ x ∈ prefer (fun node => node.capacityViewers ≠ 0) nodes,
      ∀ y ∈ prefer (fun node => node.capacityViewers ≠ 0) nodes,
        compareLoad (nodes.any fun node => node.capacityViewers ≠ 0) x y =
          compare x.exactLoad y.exactLoad := by
  intro x hx y hy
  unfold prefer at hx hy
  by_cases hsized : (nodes.any fun node => decide (node.capacityViewers ≠ 0)) = true
  · rw [if_pos hsized] at hx hy
    rw [hsized]
    exact compareLoad_sized (by simpa using (mem_filter.mp hx).2)
      (by simpa using (mem_filter.mp hy).2)
  · rw [if_neg hsized] at hx hy
    have hnone : ∀ node ∈ nodes, node.capacityViewers = 0 := by simpa using hsized
    rw [Bool.not_eq_true] at hsized
    rw [hsized]
    exact compareLoad_unsized (hnone x hx) (hnone y hy)

/-! ## The nodes that tie -/

theorem closest_eq_leastBy (nodes : List NodeStatus) : (if hint = [] then nodes
      else prefer (fun node => node.region = hint) nodes) =
      leastBy (fun node => !decide (hint = [] ∨ node.region = hint))
        nodes := by
  rw [← prefer_eq_leastBy]
  split_ifs with hnone
  · simp [prefer, hnone]
  · simp [hnone]

theorem tied_perm : (r.tied hint nowUnix).Perm
      (leastBy (NodeStatus.rank hint) ((r.statuses nowUnix).filter mayServe)) := by
  have hrank : leastBy (NodeStatus.rank hint) ((r.statuses nowUnix).filter mayServe) =
      leastBy NodeStatus.exactLoad (leastBy (fun node => !decide (node.capacityViewers ≠ 0))
          (leastBy (fun node => !decide (node.role = .edge))
            (leastBy (fun node => !decide (hint = [] ∨ node.region = hint))
              ((r.statuses nowUnix).filter mayServe)))) := by
    rw [← leastBy_toLex, ← leastBy_toLex, ← leastBy_toLex]
    rfl
  refine (perm_insertionSort _ _).trans (Perm.of_eq ?_)
  rw [hrank, runningLeast_eq_leastBy NodeStatus.exactLoad _ (compareLoad_prefer _),
    closest_eq_leastBy, prefer_eq_leastBy, prefer_eq_leastBy]

theorem mem_tied : node ∈ r.tied hint nowUnix ↔ r.IsBest hint nowUnix node := by
  rw [tied_perm.mem_iff, mem_leastBy]
  simp only [mem_eligible, IsBest]

theorem nodup_tied : (r.tied hint nowUnix).Nodup := by
  rw [tied_perm.nodup_iff]
  exact (nodup_statuses.filter _).sublist (leastBy_sublist _ _)

theorem tied_eq_nil (r : NodeRegistry) (hint : List UInt8) (nowUnix : Int64) :
    r.tied hint nowUnix = [] ↔ ∀ node, ¬r.Eligible nowUnix node := by
  rw [← perm_nil]
  constructor
  · intro hnone node hnode
    have hnil := hnone.symm.trans tied_perm
    refine leastBy_ne_nil ?_ hnil.nil_eq.symm
    exact ne_nil_of_mem (mem_eligible.mpr hnode)
  · intro hnone
    rw [perm_nil, eq_nil_iff_forall_not_mem]
    exact fun node hnode => hnone node (mem_tied.mp hnode).1

/-! ## Going round -/

theorem locate_nil (h : r.tied hint nowUnix = []) : r.locate hint nowUnix = (none, r) := by
  rw [locate, h]

theorem locate_cons (h : r.tied hint nowUnix ≠ []) : r.locate hint nowUnix =
      ((r.tied hint nowUnix)[r.placementCursor.toNat % (r.tied hint nowUnix).length]?,
        { r with placementCursor := r.placementCursor + 1 }) := by
  rw [locate]
  split
  · exact (h (by assumption)).elim
  · rfl

theorem locate_mem (h : r.tied hint nowUnix ≠ []) :
    ∃ node ∈ r.tied hint nowUnix, (r.locate hint nowUnix).1 = some node := by
  have hlt : r.placementCursor.toNat % (r.tied hint nowUnix).length <
      (r.tied hint nowUnix).length :=
    Nat.mod_lt _ (length_pos_of_ne_nil h)
  rw [locate_cons h]
  exact ⟨_, getElem_mem hlt, getElem?_eq_getElem hlt⟩

theorem tied_cursor (cursor : UInt64) :
    ({ r with placementCursor := cursor } : NodeRegistry).tied hint nowUnix =
      r.tied hint nowUnix := rfl

theorem locateCalls_eq (calls : ℕ) (r : NodeRegistry) (hne : r.tied hint nowUnix ≠ [])
    (hcur : r.placementCursor.toNat + calls ≤ 2 ^ 64) :
    locateCalls hint nowUnix calls r = (List.range calls).map fun turn =>
        (r.tied hint nowUnix)[(r.placementCursor.toNat + turn) %
          (r.tied hint nowUnix).length]? := by
  induction calls generalizing r with
  | zero => rfl
  | succ calls ih =>
    rw [locateCalls, locate_cons hne, range_succ_eq_map, map_cons, map_map]
    congr 1
    rcases Nat.eq_zero_or_pos calls with rfl | hpos
    · rfl
    · have hstep : (r.placementCursor + 1).toNat = r.placementCursor.toNat + 1 := by
        rw [UInt64.toNat_add]
        simp only [UInt64.toNat_one]
        omega
      have hbd : (r.placementCursor + 1).toNat + calls ≤ 2 ^ 64 := by omega
      rw [ih { r with placementCursor := r.placementCursor + 1 } hne hbd]
      simp only [tied_cursor, hstep]
      apply map_congr_left
      intro turn _
      rw [Function.comp_apply, Nat.add_assoc, Nat.add_comm 1 turn]

theorem locateCalls_perm (hcur : r.placementCursor.toNat + (r.tied hint nowUnix).length ≤ 2 ^ 64) :
    (locateCalls hint nowUnix (r.tied hint nowUnix).length r).Perm
      ((r.tied hint nowUnix).map some) := by
  by_cases hnone : r.tied hint nowUnix = []
  · rw [hnone]
    exact List.Perm.refl _
  · rw [locateCalls_eq _ r hnone hcur]
    exact perm_cursor _ _

/-- A viewer is refused only if no node may serve, and is sent to a node of the
least rank otherwise.  As many calls as nodes tie meet each of them once, as long
as the cursor does not wrap. -/
theorem locate_best_in_turn (r : NodeRegistry) (regionHint : List UInt8) (nowUnix : Int64) :
    ((r.locate regionHint nowUnix).1 = none ↔ ∀ node, ¬r.Eligible nowUnix node) ∧
      (∀ node, (r.locate regionHint nowUnix).1 = some node → r.IsBest regionHint nowUnix node) ∧
      ∀ best : List NodeStatus, best.Nodup →
        (∀ node, node ∈ best ↔ r.IsBest regionHint nowUnix node) →
          r.placementCursor.toNat + best.length ≤ 2 ^ 64 →
            (r.locateCalls regionHint nowUnix best.length).Perm (best.map some) := by
  refine ⟨?_, ?_, ?_⟩
  · rw [← tied_eq_nil r regionHint nowUnix]
    constructor
    · intro hrefused
      by_contra hne
      obtain ⟨node, _, hnode⟩ := locate_mem hne
      rw [hrefused] at hnode
      cases hnode
    · intro hnil
      rw [locate_nil hnil]
  · intro node hnode
    by_cases hnil : r.tied regionHint nowUnix = []
    · rw [locate_nil hnil] at hnode
      cases hnode
    · obtain ⟨chosen, hchosen, hlocated⟩ := locate_mem hnil
      rw [hlocated] at hnode
      cases hnode
      exact mem_tied.mp hchosen
  · intro best hnodup hbest hcursor
    have hperm : (r.tied regionHint nowUnix).Perm best :=
      (perm_ext_iff_of_nodup nodup_tied hnodup).mpr fun node => mem_tied.trans (hbest node).symm
    rw [← hperm.length_eq] at hcursor ⊢
    exact (locateCalls_perm hcursor).trans (hperm.map some)

/-- Two edges that heard of no viewer yet, and an origin. -/
def threeNodes : NodeRegistry :=
  ((({} : NodeRegistry).put { id := [0x61], role := "edge", capacityViewers := 10 }).put
    { id := [0x62], role := "edge", capacityViewers := 20 }).put
    { id := [0x63], role := "origin", capacityViewers := 30 }

theorem locate_threeNodes :
    (threeNodes.locateCalls [] 5 2).Perm ((threeNodes.tied [] 5).map some) := by
  have hcursor : threeNodes.placementCursor.toNat + (threeNodes.tied [] 5).length ≤ 2 ^ 64 := by
    decide
  exact (locate_best_in_turn threeNodes [] 5).2.2 _ nodup_tied (fun _ => mem_tied) hcursor

end NodeRegistry

end RtmpCore.Cluster
