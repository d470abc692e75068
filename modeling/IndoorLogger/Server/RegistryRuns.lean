import IndoorLogger.Lib.Machine
import IndoorLogger.Server.RegistryMap

/-
  Runs of the registry. From `client_registry_init` on, any sequence of calls keeps the arrays
  in agreement with the map: same results, same entries and mappings, blank slots behind them.
  A call leaves every entry alone that it does not target, and a call that returns -1 leaves
  everything alone.
-/

namespace IndoorLogger

open Machine

/-! ## Calls -/

/-- One call on the registry; the clock, the caller's strings and failing calls below it are
    arbitrary. -/
inductive RegistryOp where
  | init
  | update (io : RenameIo) (now : UInt32) (id : ClientId) (name ip : Option (List UInt8))
      (overwriteName : Bool)
  | renameId (oldId newId : ClientId)
  | clearIdMapping (oldId : ClientId)
  | setBasicMode (id : ClientId) (value : Bool)
  | checkStale (now timeoutSec : UInt32)
  | delete (io : SaveIo) (id : ClientId)

/-- The code's step. A `void` function counts as returning 0. -/
def registryStep (s : Registry × Fs × Nvs) : RegistryOp → (Registry × Fs × Nvs) × Int
  | .init => ((clientRegistryInit, s.2), 0)
  | .update io now id name ip overwriteName =>
    let r := clientRegistryUpdate io now s.1 s.2.1 id name ip overwriteName
    ((r.1.1, r.1.2, s.2.2), r.2)
  | .renameId oldId newId =>
    let r := clientRegistryRenameId s.1 oldId newId
    ((r.1, s.2), r.2)
  | .clearIdMapping oldId => ((clientRegistryClearIdMapping s.1 oldId, s.2), 0)
  | .setBasicMode id value =>
    let r := clientRegistrySetBasicMode s.1 id value
    ((r.1, s.2), r.2)
  | .checkStale now timeoutSec => ((clientRegistryCheckStale now timeoutSec s.1, s.2), 0)
  | .delete io id =>
    let r := clientRegistryDelete io s.1 s.2.2 id
    ((r.1.1, s.2.1, r.1.2), r.2)

/-- The map's step. -/
def RegMap.step (m : RegMap) : RegistryOp → RegMap × Int
  | .init => (RegMap.empty, 0)
  | .update _ now id name ip overwriteName => m.update now id id.2 name ip overwriteName
  | .renameId oldId newId =>
    if h : m.CanRename oldId newId then (m.rename oldId newId h, 0)
    else (m, if oldId.1 = newId.1 then 0 else -1)
  | .clearIdMapping oldId => (m.clearMapping oldId, 0)
  | .setBasicMode id value => (m.setBasicMode id value, if id.1 ∈ m.ids then 0 else -1)
  | .checkStale now timeoutSec => (m.checkStale now timeoutSec, 0)
  | .delete _ id => (m.erase id, if id.1 ∈ m.ids then 0 else -1)

/-- One call is the map operation. -/
theorem step_lists {s : Registry × Fs × Nvs} {m : RegMap} (h : s.1.Lists m) (op : RegistryOp) :
    (registryStep s op).2 = (m.step op).2 ∧ (registryStep s op).1.1.Lists (m.step op).1 := by
  cases op with
  | init => exact ⟨rfl, lists_init⟩
  | update io now id name ip overwriteName =>
    obtain ⟨hl, -, hr⟩ := update_lists h io now s.2.1 id.2 name ip overwriteName
    exact ⟨hr, hl⟩
  | renameId oldId newId =>
    rw [RegMap.step, registryStep]
    by_cases hc : m.CanRename oldId newId
    · rw [dif_pos hc]
      exact (renameId_lists h hc).symm
    · rw [dif_neg hc, renameId_refused h hc]
      refine ⟨?_, h⟩
      simp only [ne_eq, oldId.2, not_false_eq_true, and_true]
  | clearIdMapping oldId => exact ⟨rfl, clearIdMapping_lists h oldId.2⟩
  | setBasicMode id value => exact (setBasicMode_lists h id value).symm
  | checkStale now timeoutSec => exact ⟨rfl, checkStale_lists h now timeoutSec⟩
  | delete io id =>
    rw [RegMap.step, registryStep]
    by_cases hid : id.1 ∈ m.ids
    · rw [if_pos hid]
      exact (delete_lists h io s.2.2 hid).symm
    · have hsame : m.erase id = m := RegMap.ext (KeyedList.erase_of_notMem hid) rfl
      rw [if_neg hid, delete_refused h io s.2.2 hid, hsame]
      exact ⟨rfl, h⟩

/-! ## Frame -/

/-- The ids a call targets. -/
def RegistryOp.Targets (m : RegMap) : RegistryOp → Id → Prop
  | .init => fun _ => True
  | .update _ _ id _ ip _ => fun k => k = id ∨ ∃ v, m.victim id ip = some v ∧ k = v.id
  | .renameId oldId newId => fun k => k = oldId ∨ k = newId
  | .clearIdMapping _ => fun _ => False
  | .setBasicMode id _ => fun k => k = id
  | .checkStale _ _ => fun _ => False
  | .delete _ id => fun k => k = id

/-- What a call may do to an entry it does not target. -/
def RegistryOp.Leaves : RegistryOp → Entry → Entry → Prop
  | .checkStale _ _ => fun e e' =>
    e' = e ∨ e' = { e with info := { e.info with online := false } }
  | _ => fun e e' => e' = e

theorem RegistryOp.leaves_self (op : RegistryOp) (e : Entry) : op.Leaves e e := by
  cases op <;> first | exact rfl | exact Or.inl rfl

theorem leaves_of_eq (op : RegistryOp) {l l' : List Entry} (h : l' = l) :
    List.Forall₂ op.Leaves l l' := by
  rw [h, List.forall₂_same]
  exact fun e _ => op.leaves_self e

theorem update_filter (m : RegMap) (now : UInt32) {id : Id} (hid : id ≠ CStr.empty)
    (name ip : Option (List UInt8)) (overwriteName : Bool) {p : Id → Bool} (hp : p id = false)
    (hv : ∀ v, m.victim id ip = some v → p v.id = false) :
    ((m.update now id hid name ip overwriteName).1.entries.filter fun e => p e.id) =
      m.entries.filter fun e => p e.id := by
  have hd : ((m.dedup id ip).entries.filter fun e => p e.id) =
      m.entries.filter fun e => p e.id := by
    rw [RegMap.dedup]
    cases hvic : m.victim id ip with
    | none => rfl
    | some v => exact KeyedList.filter_erase (hv v hvic)
  rw [RegMap.update, RegMap.enroll, ← hd]
  by_cases hmem : id ∈ (m.dedup id ip).ids
  · rw [dif_pos hmem]
    exact KeyedList.filter_modify hp fun e he => (congrArg p he).trans hp
  · rw [dif_neg hmem]
    split
    · exact KeyedList.filter_append_singleton (x := RegMap.fresh now id name ip overwriteName) hp
    · rfl

/-- The entries a call does not target keep their order and their attributes, but for the
    online flags that `client_registry_check_stale` clears. -/
theorem step_frame (m : RegMap) (op : RegistryOp) (p : Id → Bool)
    (hp : ∀ k, op.Targets m k → p k = false) :
    List.Forall₂ op.Leaves (m.entries.filter fun e => p e.id)
      ((m.step op).1.entries.filter fun e => p e.id) := by
  cases op with
  | init =>
    have hnone : (m.entries.filter fun e => p e.id) = [] :=
      List.filter_eq_nil_iff.mpr fun e _ => by rw [hp e.id trivial]; exact Bool.false_ne_true
    rw [hnone]
    exact List.Forall₂.nil
  | update io now id name ip overwriteName =>
    exact leaves_of_eq _ (update_filter m now id.2 name ip overwriteName (hp _ (Or.inl rfl))
      fun v hv => hp _ (Or.inr ⟨v, hv, rfl⟩))
  | renameId oldId newId =>
    apply leaves_of_eq
    rw [RegMap.step]
    split
    · exact KeyedList.filter_modify (hp _ (Or.inl rfl)) fun _ _ => hp _ (Or.inr rfl)
    · rfl
  | clearIdMapping oldId => exact leaves_of_eq _ rfl
  | setBasicMode id value =>
    exact leaves_of_eq _ (KeyedList.filter_modify (hp _ rfl)
      fun e he => (congrArg p he).trans (hp _ rfl))
  | checkStale now timeoutSec =>
    have hmap : ((m.step (.checkStale now timeoutSec)).1.entries.filter fun e => p e.id) =
        (m.entries.filter fun e => p e.id).map fun e =>
          { e with info := e.info.markStale now timeoutSec } := by
      have hcomp : ((fun e : Entry => p e.id) ∘ fun e : Entry =>
          { e with info := e.info.markStale now timeoutSec }) = fun e => p e.id :=
        funext fun e => congrArg p (RegMap.markStale_id now timeoutSec e.info)
      have : (m.step (.checkStale now timeoutSec)).1.entries =
          m.entries.map fun e => { e with info := e.info.markStale now timeoutSec } := rfl
      rw [this, List.filter_map, hcomp]
    rw [hmap, List.forall₂_map_right_iff, List.forall₂_same]
    intro e _
    unfold RegistryOp.Leaves
    rw [ClientInfo.markStale]
    split
    · exact Or.inr rfl
    · exact Or.inl rfl
  | delete io id => exact leaves_of_eq _ (KeyedList.filter_erase (hp _ rfl))

/-- A call that returns -1 leaves registry, files and NVS as they were. -/
theorem step_refused {s : Registry × Fs × Nvs} {m : RegMap} (h : s.1.Lists m) (op : RegistryOp)
    (hret : (registryStep s op).2 = -1) : (registryStep s op).1 = s := by
  cases op with
  | init => cases hret
  | update io now id name ip overwriteName =>
    have := update_refused h io now s.2.1 id.2 name ip overwriteName hret
    rw [registryStep, this]
  | renameId oldId newId =>
    rw [registryStep] at hret ⊢
    by_cases hc : m.CanRename oldId newId
    · rw [(renameId_lists h hc).2] at hret
      cases hret
    · rw [renameId_refused h hc]
  | clearIdMapping oldId => cases hret
  | setBasicMode id value =>
    rw [registryStep] at hret ⊢
    simp only [clientRegistrySetBasicMode] at hret ⊢
    split at hret
    case h_1 => cases hret
    case h_2 => rfl
  | checkStale now timeoutSec => cases hret
  | delete io id =>
    rw [registryStep] at hret ⊢
    by_cases hid : id.1 ∈ m.ids
    · rw [(delete_lists h io s.2.2 hid).2] at hret
      cases hret
    · rw [delete_refused h io s.2.2 hid]

/-! ## Runs -/

theorem run_lists {s : Registry × Fs × Nvs} {m : RegMap} (h : s.1.Lists m)
    (ops : List RegistryOp) :
    outputs registryStep s ops = outputs RegMap.step m ops ∧
      (final registryStep s ops).1.Lists (final RegMap.step m ops) := by
  induction ops generalizing s m with
  | nil => exact ⟨rfl, h⟩
  | cons op ops ih =>
    obtain ⟨hret, hstep⟩ := step_lists h op
    obtain ⟨houts, hfinal⟩ := ih hstep
    exact ⟨by rw [outputs, outputs, hret, houts], hfinal⟩

/-- **The registry is a bounded ordered map.** After `client_registry_init` and any calls, the
    arrays list a map of at most 16 entries with distinct non-empty ids and at most 16 mappings
    with distinct old ids, blank behind both; the calls returned what the map's operations
    return, and one more call is that operation, keeps the entries it does not target, and
    changes nothing when it returns -1. -/
theorem registry_is_ordered_map (s₀ : Registry × Fs × Nvs) (ops : List RegistryOp)
    (op : RegistryOp) :
    let s := final registryStep s₀ (.init :: ops)
    let m := final RegMap.step RegMap.empty ops
    outputs registryStep s₀ (.init :: ops) = 0 :: outputs RegMap.step RegMap.empty ops ∧
      s.1.Lists m ∧
      (registryStep s op).2 = (m.step op).2 ∧
      (registryStep s op).1.1.Lists (m.step op).1 ∧
      (∀ p : Id → Bool, (∀ k, op.Targets m k → p k = false) →
        List.Forall₂ op.Leaves (m.entries.filter fun e => p e.id)
          ((m.step op).1.entries.filter fun e => p e.id)) ∧
      ((registryStep s op).2 = -1 → (registryStep s op).1 = s) := by
  intro s m
  obtain ⟨houts, hlists⟩ : outputs registryStep (clientRegistryInit, s₀.2) ops =
      outputs RegMap.step RegMap.empty ops ∧ s.1.Lists m :=
    run_lists (s := (clientRegistryInit, s₀.2)) lists_init ops
  obtain ⟨hret, hstep⟩ := step_lists hlists op
  exact ⟨congrArg (List.cons 0) houts, hlists, hret, hstep, step_frame m op,
    step_refused hlists op⟩

end IndoorLogger
