import Mathlib.Logic.Relation
import MeshNodeDB.Catalog

/-! # `getOrCreateNode` against an interrupt-context `getNode`

`getNode` may run in an interrupt, between any two statements of the main context. This
layer models `node_db` as the array it is, spare slots included, and the append path of
`getOrCreateNode(n)` one statement at a time: `info = &nodes[(*numNodes)++]`, the `memset`,
then `info->num = n`. A complete run does what `getOrCreateNode` does on the table; but
the count is raised first, so between the statements `getNode` already scans a slot that
does not hold its key yet. -/

namespace MeshNodeDB
namespace NodeDB

/-- `node_db[MAX_NUM_NODES]` and `*numNodes`. -/
structure Slots (P : Platform) where
  slots : List NodeInfo
  count : Nat
  length_eq : slots.length = P.maxNumNodes
  count_le : count ≤ P.maxNumNodes

/-- What `getNode` scans: `nodes[0 .. *numNodes)`. -/
def Slots.visible {P : Platform} (s : Slots P) : List NodeInfo := s.slots.take s.count

/-- Where the main context is in `getOrCreateNode(n)`; `slot` is the index it handed out
or is filling. -/
inductive CreatePc where
  | start
  | taken (slot : Nat)
  | cleared (slot : Nat)
  | returned (slot : Nat)
  deriving DecidableEq, Repr

variable {P : Platform}

/-- `memset(info, 0, sizeof(*info))` on slot `i`. -/
def Slots.clear (s : Slots P) (i : Nat) : Slots P :=
  { s with slots := s.slots.set i {}, length_eq := by rw [List.length_set, s.length_eq] }

/-- `info->num = n` on slot `i`. -/
def Slots.setNum (s : Slots P) (i : Nat) (n : NodeNum) : Slots P :=
  { s with
    slots := s.slots.modify (fun x => { x with num := n }) i
    length_eq := by rw [List.length_modify, s.length_eq] }

/-- One statement of `getOrCreateNode(n)` in the main context. -/
def createStep (P : Platform) (n : NodeNum) (s : Slots P) :
    CreatePc → Except Halt (CreatePc × Slots P)
  | .start =>
    match getNode s.visible n with
    | some i => .ok (.returned i, s)
    | none =>
      if h : s.count < P.maxNumNodes then
        .ok (.taken s.count, { s with count := s.count + 1, count_le := h })
      else .error .assertFailed
  | .taken i => .ok (.cleared i, s.clear i)
  | .cleared i => .ok (.returned i, s.setNum i n)
  | .returned i => .ok (.returned i, s)

def CreateStep (P : Platform) (n : NodeNum) (a b : CreatePc × Slots P) : Prop :=
  createStep P n a.2 a.1 = .ok b

/-- The slot being filled, when it is below the count, already holds its key. -/
def Constructed (n : NodeNum) : CreatePc × Slots P → Prop
  | (.taken i, s) => ∀ x, i < s.count → s.slots[i]? = some x → x.num = n
  | (.cleared i, s) => ∀ x, i < s.count → s.slots[i]? = some x → x.num = n
  | _ => True

theorem take_set_succ {α : Type} (l : List α) {c : Nat} (x : α) (hc : c < l.length) :
    (l.set c x).take (c + 1) = l.take c ++ [x] := by
  rw [List.take_succ, List.getElem?_set_self hc, Option.toList_some]
  congr 1
  apply List.ext_getElem?
  intro i
  rw [List.getElem?_take, List.getElem?_take]
  split
  · exact List.getElem?_set_ne (by omega)
  · rfl

theorem Slots.visible_length (s : Slots P) : s.visible.length = s.count := by
  simp [Slots.visible, s.length_eq, s.count_le]

def Slots.fresh (P : Platform) : Slots P :=
  ⟨List.replicate P.maxNumNodes {}, 0, List.length_replicate _ _, Nat.zero_le _⟩

theorem Slots.fresh_visible : (Slots.fresh P).visible = [] := rfl

theorem createStep_to_cleared {s : Slots P} {n : NodeNum} (hn : getNode s.visible n = none)
    (hroom : s.count < P.maxNumNodes) :
    ∃ s₂ : Slots P, Relation.ReflTransGen (CreateStep P n) (.start, s) (.cleared s.count, s₂) ∧
      s₂.count = s.count + 1 ∧ s₂.slots = s.slots.set s.count {} := by
  have h₁ : CreateStep P n (.start, s)
      (.taken s.count, { s with count := s.count + 1, count_le := hroom }) := by
    simp only [CreateStep, createStep, hn, dif_pos hroom]
  exact ⟨_, .tail (.single h₁) rfl, rfl, rfl⟩

/-- Run to its return, the statement-level `getOrCreateNode` does to the table what
`getOrCreateNode` does. -/
theorem createStep_refines {s : Slots P} {n : NodeNum} {i : Nat} {nodes : List NodeInfo}
    (h : getOrCreateNode P s.visible n = .ok (i, nodes)) :
    ∃ s' : Slots P, Relation.ReflTransGen (CreateStep P n) (.start, s) (.returned i, s') ∧
      s'.visible = nodes := by
  rcases getOrCreateNode_eq_ok.1 h with ⟨hi, rfl⟩ | ⟨hn, hlt, rfl, rfl⟩
  · exact ⟨s, .single (by simp [CreateStep, createStep, hi]), rfl⟩
  · rw [s.visible_length] at hlt ⊢
    obtain ⟨s₂, hrun, hc, hs⟩ := createStep_to_cleared hn hlt
    refine ⟨s₂.setNum s.count n, hrun.tail rfl, ?_⟩
    have hlen : s.count < s.slots.length := s.length_eq ▸ hlt
    have hc' : (s.slots.take s.count).length = s.count := by simp; omega
    have key := modify_append_length (fun x : NodeInfo => { x with num := n })
      (s.slots.take s.count) {}
    rw [hc'] at key
    simp only [Slots.visible, Slots.setNum, hc, hs, List.take_modify, take_set_succ _ _ hlen, key]

/-- The interleaving the count-first order allows: whenever `getOrCreateNode(n)` appends
while no record is keyed `0`, an interrupt-context `getNode(0)` between the `memset` and
`info->num = n` returns the slot being built, which does not hold its key yet. -/
theorem createStep_exposes_unfinished {s : Slots P} {n : NodeNum}
    (hn : getNode s.visible n = none) (hroom : s.count < P.maxNumNodes)
    (h0 : getNode s.visible 0 = none) (hn0 : n ≠ 0) :
    ∃ s₂ : Slots P, Relation.ReflTransGen (CreateStep P n) (.start, s) (.cleared s.count, s₂) ∧
      getNode s₂.visible 0 = some s.count ∧ ¬ Constructed n (.cleared s.count, s₂) := by
  obtain ⟨s₂, hrun, hc, hs⟩ := createStep_to_cleared hn hroom
  have hlen : s.count < s.slots.length := s.length_eq ▸ hroom
  have hv : s₂.visible = s.visible ++ [({} : NodeInfo)] := by
    simp only [Slots.visible, hc, hs, take_set_succ _ _ hlen]
  refine ⟨s₂, hrun, ?_, fun hcon => hn0 ?_⟩
  · rw [hv, getNode_append_of_none _ h0 rfl, s.visible_length]
  · refine (hcon ({} : NodeInfo) (by omega) ?_).symm
    rw [hs, List.getElem?_set_self hlen]

theorem getNode_isr_sees_unfinished_slot :
    ∃ s₂ : Slots Platform.demo,
      Relation.ReflTransGen (CreateStep Platform.demo 5) (.start, Slots.fresh Platform.demo)
        (.cleared 0, s₂) ∧
      getNode s₂.visible 0 = some 0 ∧ ¬ Constructed 5 (.cleared 0, s₂) :=
  createStep_exposes_unfinished rfl (by decide) rfl (by decide)

/-! ## Spare slots, and what an interrupt can see

Every reset `memset`s the whole array and a load fills only `nodes[0 .. *numNodes)`; after
that the main context writes no slot past the count but the one `getOrCreateNode` has just
counted in. So the spare slots stay zero, and an interrupt-context `getNode` that catches
`getOrCreateNode` half way scans at most one zero record more than the table: it can be
wrong only about key `0`. -/

def Slots.load (P : Platform) (nodes : List NodeInfo) (h : nodes.length ≤ P.maxNumNodes) :
    Slots P :=
  ⟨nodes ++ List.replicate (P.maxNumNodes - nodes.length) ({} : NodeInfo), nodes.length,
    by rw [List.length_append, List.length_replicate]; omega, h⟩

/-- A write through the pointer `getOrCreateNode` returned, such as `info->user = p`. -/
def Slots.write (s : Slots P) (i : Nat) (f : NodeInfo → NodeInfo) : Slots P :=
  { s with
    slots := s.slots.modify f i
    length_eq := by rw [List.length_modify, s.length_eq] }

/-- `(*numNodes)++`, as the append path of `createStep` does it. -/
def Slots.bump (s : Slots P) (h : s.count < P.maxNumNodes) : Slots P :=
  { s with count := s.count + 1, count_le := h }

/-- One step of the main context on the array: a statement of some `getOrCreateNode(n)`,
the start of the next call once one has returned, a write through the pointer it returned,
the `memset` of a reset, or a load. -/
inductive MainStep (P : Platform) : CreatePc × Slots P → CreatePc × Slots P → Prop
  | create {n : NodeNum} {a b : CreatePc × Slots P} : CreateStep P n a b → MainStep P a b
  | next {i : Nat} {s : Slots P} : MainStep P (.returned i, s) (.start, s)
  | write {i : Nat} {s : Slots P} (f : NodeInfo → NodeInfo) :
      MainStep P (.returned i, s) (.returned i, s.write i f)
  | wipe {a : CreatePc × Slots P} : MainStep P a (.start, Slots.fresh P)
  | load {a : CreatePc × Slots P} (nodes : List NodeInfo) (h : nodes.length ≤ P.maxNumNodes) :
      MainStep P a (.start, Slots.load P nodes h)

def Slots.SparesZero (s : Slots P) : Prop :=
  ∀ j x, s.count ≤ j → s.slots[j]? = some x → x = {}

def Holds : CreatePc → Nat → Prop
  | .start, _ => True
  | .taken i, c => i < c
  | .cleared i, c => i < c
  | .returned i, c => i < c

def MainOk (a : CreatePc × Slots P) : Prop := a.2.SparesZero ∧ Holds a.1 a.2.count

theorem Slots.fresh_sparesZero : (Slots.fresh P).SparesZero := fun _ x _ hx => by
  simp [Slots.fresh, List.getElem?_replicate] at hx
  exact hx.2.symm

theorem Slots.load_sparesZero (nodes : List NodeInfo) (h : nodes.length ≤ P.maxNumNodes) :
    (Slots.load P nodes h).SparesZero := fun j x hj hx => by
  simp only [Slots.load] at hj hx
  rw [List.getElem?_append_right hj] at hx
  simp [List.getElem?_replicate] at hx
  exact hx.2.symm

theorem Slots.sparesZero_modify {s : Slots P} (hz : s.SparesZero) {i : Nat} (hi : i < s.count)
    (f : NodeInfo → NodeInfo) : ∀ j x, s.count ≤ j → (s.slots.modify f i)[j]? = some x → x = {} :=
  fun j x hj hx => hz j x hj (by rwa [List.getElem?_modify_ne _ _ (by omega)] at hx)

theorem createStep_ok {n : NodeNum} {s : Slots P} {pc : CreatePc} {b : CreatePc × Slots P}
    (h : createStep P n s pc = .ok b) (ha : MainOk (pc, s)) : MainOk b := by
  obtain ⟨hz, hh⟩ : s.SparesZero ∧ Holds pc s.count := ha
  cases pc with
  | start =>
    simp only [createStep] at h
    split at h
    · cases h
      exact ⟨hz, s.visible_length ▸ getNode_lt ‹_›⟩
    · split at h
      · cases h
        exact ⟨fun j x (hj : s.count + 1 ≤ j) => hz j x (by omega), Nat.lt_succ_self _⟩
      · cases h
  | taken i =>
    cases h
    refine ⟨fun j x (hj : s.count ≤ j) hx => hz j x hj ?_, hh⟩
    simp only [Slots.clear] at hx
    rwa [List.getElem?_set_ne (show i ≠ j by simp only [Holds] at hh; omega)] at hx
  | cleared i => cases h; exact ⟨Slots.sparesZero_modify hz hh _, hh⟩
  | returned i => cases h; exact ⟨hz, hh⟩

theorem MainStep.ok {a b : CreatePc × Slots P} (h : MainStep P a b) (ha : MainOk a) :
    MainOk b := by
  cases h with
  | create step => exact createStep_ok step ha
  | next => exact ⟨ha.1, trivial⟩
  | write f => exact ⟨Slots.sparesZero_modify ha.1 ha.2 f, ha.2⟩
  | wipe => exact ⟨Slots.fresh_sparesZero, trivial⟩
  | load nodes h => exact ⟨Slots.load_sparesZero nodes h, trivial⟩

theorem MainStep.run_ok {a b : CreatePc × Slots P}
    (hrun : Relation.ReflTransGen (MainStep P) a b) (ha : MainOk a) : MainOk b := by
  induction hrun with
  | refl => exact ha
  | tail _ step ih => exact step.ok ih

/-- The points one call `getOrCreateNode(n)` begun on the array `s` passes: its start, its
return with the record it found, and on the append path the raised count, the cleared slot
and the keyed slot. -/
inductive CallPoint (P : Platform) (n : NodeNum) (s : Slots P) : CreatePc × Slots P → Prop
  | start : CallPoint P n s (.start, s)
  | found {i : Nat} : getNode s.visible n = some i → CallPoint P n s (.returned i, s)
  | taken (h : s.count < P.maxNumNodes) : getNode s.visible n = none →
      CallPoint P n s (.taken s.count, s.bump h)
  | cleared (h : s.count < P.maxNumNodes) : getNode s.visible n = none →
      CallPoint P n s (.cleared s.count, (s.bump h).clear s.count)
  | keyed (h : s.count < P.maxNumNodes) : getNode s.visible n = none →
      CallPoint P n s (.returned s.count, ((s.bump h).clear s.count).setNum s.count n)

theorem CallPoint.step {s : Slots P} {n : NodeNum} {a b : CreatePc × Slots P}
    (ha : CallPoint P n s a) (h : CreateStep P n a b) : CallPoint P n s b := by
  simp only [CreateStep] at h
  cases ha with
  | start =>
    simp only [createStep] at h
    split at h
    · cases h; exact .found ‹_›
    · split at h
      · cases h; exact .taken ‹_› ‹_›
      · cases h
  | found hi => cases h; exact .found hi
  | taken hr hn => cases h; exact .cleared hr hn
  | cleared hr hn => cases h; exact .keyed hr hn
  | keyed hr hn => cases h; exact .keyed hr hn

theorem CallPoint.of_run {s : Slots P} {n : NodeNum} {b : CreatePc × Slots P}
    (hrun : Relation.ReflTransGen (CreateStep P n) (.start, s) b) : CallPoint P n s b := by
  induction hrun with
  | refl => exact .start
  | tail _ step ih => exact ih.step step

theorem Slots.bump_visible {s : Slots P} (hz : s.SparesZero) (h : s.count < P.maxNumNodes) :
    (s.bump h).visible = s.visible ++ [({} : NodeInfo)] := by
  have hlen : s.count < s.slots.length := s.length_eq ▸ h
  have h0 : s.slots[s.count]? = some {} := by
    rw [List.getElem?_eq_getElem hlen, hz _ _ le_rfl (List.getElem?_eq_getElem hlen)]
  simp only [Slots.visible, Slots.bump, List.take_succ, h0, Option.toList_some]

theorem Slots.clear_bump_visible {s : Slots P} (h : s.count < P.maxNumNodes) :
    ((s.bump h).clear s.count).visible = s.visible ++ [({} : NodeInfo)] := by
  simp only [Slots.visible, Slots.clear, Slots.bump, take_set_succ _ _ (s.length_eq ▸ h)]

theorem Slots.setNum_clear_bump_visible {s : Slots P} (h : s.count < P.maxNumNodes)
    (n : NodeNum) :
    (((s.bump h).clear s.count).setNum s.count n).visible = s.visible ++ [{ num := n }] := by
  have hlen : s.count < s.slots.length := s.length_eq ▸ h
  have key := modify_append_length (fun x : NodeInfo => { x with num := n })
    (s.slots.take s.count) {}
  rw [List.length_take_of_le hlen.le] at key
  simp only [Slots.visible, Slots.setNum, Slots.clear, Slots.bump, List.take_modify,
    take_set_succ _ _ hlen, key]

/-- At every point of one call, over zero spare slots, `getNode` scans the table before the
call, that table and one zero record, or the table the call returns. -/
theorem CallPoint.visible {s : Slots P} {n : NodeNum} {b : CreatePc × Slots P}
    (hz : s.SparesZero) (hb : CallPoint P n s b) :
    b.2.visible = s.visible ∨ b.2.visible = s.visible ++ [({} : NodeInfo)] ∨
      ∃ i, getOrCreateNode P s.visible n = .ok (i, b.2.visible) := by
  cases hb with
  | start => exact .inl rfl
  | found => exact .inl rfl
  | taken h => exact .inr (.inl (Slots.bump_visible hz h))
  | cleared h => exact .inr (.inl (Slots.clear_bump_visible h))
  | keyed h hn =>
    refine .inr (.inr ⟨s.count, ?_⟩)
    rw [Slots.setNum_clear_bump_visible, getOrCreateNode_eq_ok, s.visible_length]
    exact .inr ⟨hn, h, rfl, rfl⟩

/-- Interrupt-context lookups are exact for every key but `0`: along any run of the main
context from the zeroed array, at every point of a call `getOrCreateNode(n)`, `getNode(k)`
with `k ≠ 0` returns what it returns on the table before the call or on the table the call
returns. -/
theorem getNode_isr_exact_of_ne_zero {s₁ s : Slots P} {pc : CreatePc} {n k : NodeNum}
    (hmain : Relation.ReflTransGen (MainStep P) (.start, Slots.fresh P) (.start, s₁))
    (hcall : Relation.ReflTransGen (CreateStep P n) (.start, s₁) (pc, s)) (hk : k ≠ 0) :
    getNode s.visible k = getNode s₁.visible k ∨
      ∃ i nodes, getOrCreateNode P s₁.visible n = .ok (i, nodes) ∧
        getNode s.visible k = getNode nodes k := by
  have hz := (MainStep.run_ok hmain ⟨Slots.fresh_sparesZero, trivial⟩).1
  rcases (CallPoint.of_run hcall).visible hz with e | e | ⟨i, hi⟩
  · exact .inl (by rw [← e])
  · exact .inl (by rw [show s.visible = _ from e, getNode_append_of_ne _ (Ne.symm hk)])
  · exact .inr ⟨i, _, hi, rfl⟩

/-- After `getOrCreateNode(5)` has run to its return, a lookup of key `5` taken just after
`getOrCreateNode(7)` raised the count still finds the record at slot `0`. -/
theorem getNode_isr_exact_mid_append :
    ∃ (s₁ s : Slots Platform.demo) (pc : CreatePc),
      Relation.ReflTransGen (MainStep Platform.demo) (.start, Slots.fresh Platform.demo)
        (.start, s₁) ∧
      Relation.ReflTransGen (CreateStep Platform.demo 7) (.start, s₁) (pc, s) ∧
      s₁.visible = [{ num := 5 }] ∧ s.visible = [{ num := 5 }, {}] ∧
      (getNode s.visible 5 = getNode s₁.visible 5 ∨
        ∃ i nodes, getOrCreateNode Platform.demo s₁.visible 7 = .ok (i, nodes) ∧
          getNode s.visible 5 = getNode nodes 5) := by
  have hmain : Relation.ReflTransGen (MainStep Platform.demo)
      (.start, Slots.fresh Platform.demo) (.start, _) :=
    .head (.create (n := 5) rfl) (.head (.create (n := 5) rfl)
      (.head (.create (n := 5) rfl) (.single .next)))
  refine ⟨_, _, _, hmain, .head rfl .refl, rfl, rfl, ?_⟩
  exact getNode_isr_exact_of_ne_zero hmain (.head rfl .refl) (by decide)

end NodeDB
end MeshNodeDB
