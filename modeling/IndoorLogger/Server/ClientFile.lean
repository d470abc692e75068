import IndoorLogger.Server.Restart
import IndoorLogger.Server.Upload

/-
  One client's file among the requests of all the others. Only an upload under its id, a
  migration or rename from or to it, or its deletion touches the file (`serverStep_spares`), in
  whatever way the calls of a request fail. A restart finds the map that the registry held.
-/

namespace IndoorLogger

variable {cJSONParse : List UInt8 → Option Json} {g : UInt32} {m : RegMap}

/-! ## Files of other clients -/

/-- A rename writes to the files of the two ids only. -/
theorem rename_other (io : RenameIo) (fs : Fs) (old new : Id) {p : Path}
    (ho : p ≠ getFilepath old) (hn : p ≠ getFilepath new) :
    (dataStoreRenameClient io fs old new).1 p = fs p := by
  have habandon : ∀ f, (if io.unlinkNew then fs.write (getFilepath new) f
      else fs.unlink (getFilepath new)) p = fs p := by
    intro f
    split
    · exact Fs.write_ne fs f hn
    · exact Fs.unlink_ne fs hn
  unfold dataStoreRenameClient
  dsimp only
  split
  · rfl
  · split
    · rfl
    · split
      · rfl
      · split
        · rfl
        · split
          · rfl
          · split
            · exact habandon []
            · split
              case h_1 => exact habandon _
              case h_2 =>
                dsimp only
                split
                · exact Fs.write_ne fs _ hn
                · rw [Fs.unlink_ne _ ho, Fs.write_ne fs _ hn]

theorem storeReadings_other (g : UInt32) (io : Nat → AppendIo) (clock : Nat → UInt32)
    {id id' : Id} (h : id' ≠ id) (i : Nat) (fs : Fs) (items : List Json) :
    (storeReadings g io clock id i fs items).1 (getFilepath id') = fs (getFilepath id') := by
  induction items generalizing i fs with
  | nil => rfl
  | cons item items ih =>
    unfold storeReadings
    split
    · exact (ih (i + 1) _).trans (append_other g (io i) fs _ h)
    · exact ih (i + 1) fs

/-! ## Requests that spare a client -/

/-- The request neither uploads under `id`, nor moves records from or to it, nor deletes it. -/
def Spares (cJSONParse : List UInt8 → Option Json) (id : ClientId) (s : ServerState) :
    Request → Prop
  | .upload io _ req => ∀ id' root, uploadTarget cJSONParse io req = some (id', root) →
      id'.1 ≠ id.1 ∧ migrated s id' req.ip ≠ some id.1
  | .clientId _ _ uri =>
      clientRegistryResolveId s.reg (queryParam uri "id" 32) ≠ id.1 ∧
        (queryParam uri "new_id" 32 : Id) ≠ id.1
  | .clientDelete _ _ uri => (queryParam uri "id" 32 : Id) ≠ id.1
  | _ => True

theorem requestFs_spares {id : ClientId} {s : ServerState} (hm : s.reg.Lists m) {r : Request}
    (h : Spares cJSONParse id s r) :
    m.requestFs cJSONParse g s.fs r (getFilepath id) = s.fs (getFilepath id) := by
  cases r with
  | upload io clock req =>
    rw [RegMap.requestFs]
    cases ht : uploadTarget cJSONParse io req with
    | none => rfl
    | some t =>
      obtain ⟨hid, hmig⟩ := h t.1 t.2 ht
      rw [migrated_eq hm, RegMap.evicted] at hmig
      have hstore := storeReadings_other g io.append clock (Ne.symm hid) 0 s.fs (uploadItems t.2)
      dsimp only
      rw [dedupFs]
      cases hv : m.victim t.1 (some req.ip.bytes) with
      | none => exact hstore
      | some v =>
        have hne : v.id ≠ id.1 := fun e => hmig (by rw [hv, Option.map_some, e])
        exact (rename_other _ _ _ _ (fun hp => hne (getFilepath_inj.mp hp).symm)
          fun hp => hid (getFilepath_inj.mp hp).symm).trans hstore
  | clientId io save uri =>
    obtain ⟨hold, hnew⟩ := h
    rw [resolveId_eq hm] at hold
    rw [RegMap.requestFs]
    split
    · exact rename_other _ _ _ _ (fun hp => hold (getFilepath_inj.mp hp).symm)
        fun hp => hnew (getFilepath_inj.mp hp).symm
    · rfl
  | clientDelete io unlinkFails uri =>
    have hid : (queryParam uri "id" 32 : Id) ≠ id.1 := h
    rw [RegMap.requestFs]
    split
    · unfold dataStoreDeleteClient
      split
      · rfl
      · exact Fs.unlink_ne _ fun hp => hid (getFilepath_inj.mp hp).symm
    · rfl
  | clientName io now uri => rfl
  | basicModePost io now uri => rfl
  | syncIntervalPost uri => rfl
  | timezonePost uri => rfl
  | checkStale now timeoutSec => rfl

/-- **A client's file is its own.** Requests that do not concern a client leave its file as it
    is, whatever calls fail. -/
theorem serverStep_spares {id : ClientId} {s : ServerState} (hm : s.reg.Lists m) {r : Request}
    (h : Spares cJSONParse id s r) :
    (serverStep cJSONParse g s r).1.fs (getFilepath id) = s.fs (getFilepath id) := by
  obtain ⟨-, hfs⟩ := serverStep_leaves cJSONParse g hm r
  rw [hfs]
  exact requestFs_spares hm h

/-! ## Restarts -/

/-- The map with every client offline. -/
def RegMap.offline (m : RegMap) : RegMap :=
  m.map (fun e => { e with info := { e.info with online := false } }) fun _ => rfl

theorem offline_lists {reg : Registry} (h : reg.Lists m) : reg.offline.Lists m.offline :=
  forEach_lists h (fun c => { c with online := false }) fun _ => rfl

/-- A restart whose NVS is up to date leaves the files, and the map but for the online flags. -/
theorem boot_lists {s : ServerState} (h : s.Persisted) (hm : s.reg.Lists m) :
    s.boot.reg.Lists m.offline ∧ s.boot.fs = s.fs := by
  refine ⟨?_, rfl⟩
  unfold ServerState.boot
  rw [h.restart_eq]
  exact offline_lists hm

end IndoorLogger
