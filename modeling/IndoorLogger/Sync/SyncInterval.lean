import IndoorLogger.Client.Cadence
import IndoorLogger.Sync.ConfigPush

/-
  The sync interval from the request to the server up to the tick threshold of the client. The
  threshold is the interval as long as its milliseconds times the tick rate fit into 32 bits
  (`sync_interval_effective_iff`), which is not half of what the web page offers.
-/

namespace IndoorLogger

/-! ## From the server to the client -/

/-- The server accepts an interval of `v` seconds. -/
def AcceptsInterval (uri : List UInt8) (v : Int) : Prop :=
  (queryParam uri "value" 16).isEmpty = false ∧ atoi (queryParam uri "value" 16).bytes = v ∧ 0 < v

instance (uri : List UInt8) (v : Int) : Decidable (AcceptsInterval uri v) :=
  inferInstanceAs (Decidable (_ ∧ _))

/-- An accepted interval is the server's from then on. -/
theorem syncIntervalPostHandler_accepts {uri : List UInt8} {v : Int} (h : AcceptsInterval uri v)
    (s : ServerState) :
    ((syncIntervalPostHandler s uri).1.syncInterval.toNat : Int) = v := by
  obtain ⟨hne, hv, hpos⟩ := h
  have hle := (atoi_mem (queryParam uri "value" 16).bytes).2
  rw [hv] at hle
  have hnat : (UInt32.ofInt v).toNat = v.toNat := by
    rw [UInt32.ofInt, UInt32.toNat_ofNat']
    omega
  have hzero : UInt32.ofInt v ≠ 0 := by
    intro h0
    rw [h0] at hnat
    have hz : (0 : UInt32).toNat = 0 := rfl
    omega
  unfold syncIntervalPostHandler configSaveSyncInterval
  dsimp only
  rw [hne, if_neg Bool.false_ne_true, hv, if_neg (by omega)]
  dsimp only
  rw [if_neg hzero, hnat]
  omega

/-- No other part of an answer changes the interval. -/
theorem syncIntervalSec_applyServerConfig (io : ApplyIo) (r : UploadReply) (d : Device) :
    (applyServerConfig io r.json d).syncIntervalSec =
      if r.syncInterval ≥ 60 then r.syncInterval else d.syncIntervalSec := by
  unfold applyServerConfig
  dsimp only
  generalize hd₁ : (d.applyTimestamp r.json).applySyncInterval r.json = d₁
  obtain ⟨_, _, hname⟩ := d₁.applyName_eq io r.json
  obtain ⟨_, htz⟩ := (d₁.applyName io r.json).applyTimezone_eq r.json
  obtain ⟨_, _, hbasic⟩ :=
    ((d₁.applyName io r.json).applyTimezone r.json).applyBasicMode_eq io r.json
  obtain ⟨_, _, _, _, _, hid⟩ := (((d₁.applyName io r.json).applyTimezone
    r.json).applyBasicMode io r.json).applyId_eq io r.json
  rw [hid, hbasic, htz, hname, ← hd₁, d.applyTimestamp_json, Device.applySyncInterval_json]

/-! ## The threshold -/

/-- An interval of at least a minute is the threshold, in ticks of ten milliseconds, exactly when
    nothing overflows. -/
theorem intervalTicks_iff {s : ClientTask} (h : 60 ≤ s.syncInterval.toNat) :
    (pdMsToTicks 100 (syncIntervalMs s)).toNat = s.syncInterval.toNat * 100 ↔
      s.syncInterval.toNat ≤ 42949 := by
  have hreq : requiredInterval s.syncInterval = s.syncInterval.toNat := Nat.max_eq_right h
  have h100 : (100 : UInt32).toNat = 100 := rfl
  constructor
  · intro heq
    have hle : (pdMsToTicks 100 (syncIntervalMs s)).toNat ≤ 4294967295 / 1000 := by
      rw [pdMsToTicks, UInt32.toNat_div]
      exact Nat.div_le_div_right (Nat.le_of_lt_succ (UInt32.toNat_lt _))
    omega
  · intro hle
    have hticks := @toNat_intervalTicks s 100 (by rw [hreq, h100]; omega)
    rw [hticks, hreq, h100]

/-- **The effective interval.** For every interval that the server accepts and a client stores
    from its answer, the tick threshold of the client is the interval at 100 Hz exactly when it is
    at most 42949 s. -/
theorem sync_interval_effective_iff {uri : List UInt8} {v : Int} (hv : AcceptsInterval uri v)
    (hmin : 60 ≤ v) (s : ServerState) {r : UploadReply}
    (hr : r.syncInterval = (syncIntervalPostHandler s uri).1.syncInterval) (io : ApplyIo)
    (d : Device) {task : ClientTask}
    (htask : task.syncInterval = (applyServerConfig io r.json d).syncIntervalSec) :
    ((pdMsToTicks 100 (syncIntervalMs task)).toNat : Int) = v * 100 ↔ v ≤ 42949 := by
  have hserver := syncIntervalPostHandler_accepts hv s
  rw [← hr] at hserver
  have hge : r.syncInterval ≥ 60 := by
    have h60 : (60 : UInt32).toNat = 60 := rfl
    rw [ge_iff_le, UInt32.le_iff_toNat_le]
    omega
  have hstored : task.syncInterval = r.syncInterval := by
    rw [htask, syncIntervalSec_applyServerConfig, if_pos hge]
  have hticks := @intervalTicks_iff task (by rw [hstored]; omega)
  rw [hstored] at hticks
  omega

/-- An interval of an hour. -/
theorem sync_interval_effective_hour :
    ((pdMsToTicks 100 (syncIntervalMs { clientTaskStart 0 with syncInterval := 3600 })).toNat :
      Int) = 3600 * 100 ↔ (3600 : Int) ≤ 42949 :=
  @sync_interval_effective_iff (ascii "/api/sync-interval?value=3600") 3600 (by decide +kernel)
    (by decide) bootState (answer "" 3600) (by decide +kernel) {} bootDevice _ (by decide +kernel)

/-- A day, the largest interval the web page offers, comes to 500 s. -/
theorem day_interval_wraps :
    let uri := ascii "/api/sync-interval?value=86400"
    let task : ClientTask := { clientTaskStart 0 with
      syncInterval := (applyServerConfig {} (answer "" 86400).json bootDevice).syncIntervalSec }
    AcceptsInterval uri 86400 ∧
      (syncIntervalPostHandler bootState uri).1.syncInterval = 86400 ∧
      task.syncInterval = 86400 ∧ (pdMsToTicks 100 (syncIntervalMs task)).toNat = 50065 ∧
      ¬((pdMsToTicks 100 (syncIntervalMs task)).toNat : Int) = 86400 * 100 := by
  decide +kernel

end IndoorLogger
