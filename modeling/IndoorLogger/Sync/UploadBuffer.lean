import IndoorLogger.Lib.Snprintf
import IndoorLogger.Sync.SensorRange
import IndoorLogger.Sync.UploadBody

/-
  The upload body as the device prints it: one snprintf for the head, one for each comma and
  each reading, one for the tail, each at the offset the calls before it added up to. For
  what the device samples, whichever readings of its sensors fail, the offset stays inside
  the 4096-byte buffer (`upload_body_fits`): 33 + 62 bytes of head, id, name and tail, and 79
  for each of the fifty readings.
-/

namespace IndoorLogger

open Machine Snprintf

/-- `sizeof(json_buf)`. -/
def jsonBufSize : Nat := 4096

/-- The texts of the calls for reading `i` of the batch. -/
def readingPrints (basicMode : Bool) (p : ClientRecord ℚ × Nat) : List (List UInt8) :=
  (if p.2 > 0 then [ascii ","] else []) ++ [readingText basicMode p.1]

/-- The texts of the snprintf calls of `wifi_sync_upload_unsynced`, in order. -/
def uploadPrints (clientId assignedName : CStr 32) (basicMode : Bool)
    (records : List (ClientRecord ℚ)) : List (List UInt8) :=
  [ascii "\x7b\"id\":\"" ++ clientId.bytes ++ ascii "\",\"name\":\"" ++ assignedName.bytes ++
    ascii "\",\"readings\":["] ++
  records.zipIdx.flatMap (readingPrints basicMode) ++ [ascii "]\x7d"]

/-- Every reading after the first is printed behind a comma. -/
theorem flatten_readingPrints (basicMode : Bool) (records : List (ClientRecord ℚ)) {n : Nat}
    (hn : 0 < n) :
    ((records.zipIdx n).flatMap (readingPrints basicMode)).flatten =
      ((records.map (readingText basicMode)).map (44 :: ·)).flatten := by
  induction records generalizing n with
  | nil => rfl
  | cons rec records ih =>
    rw [List.zipIdx_cons, List.flatMap_cons, List.flatten_append, ih n.succ_pos, readingPrints,
      if_pos hn]
    simp [ascii]

theorem flatten_uploadPrints (clientId assignedName : CStr 32) (basicMode : Bool)
    (records : List (ClientRecord ℚ)) :
    (uploadPrints clientId assignedName basicMode records).flatten =
      bodyText clientId assignedName basicMode records := by
  have hreadings : (records.zipIdx.flatMap (readingPrints basicMode)).flatten =
      Json.commaSep (records.map (readingText basicMode)) := by
    cases records with
    | nil => rfl
    | cons rec records =>
      rw [List.zipIdx_cons, List.flatMap_cons, List.flatten_append, Nat.zero_add,
        flatten_readingPrints basicMode records Nat.one_pos, List.map_cons, Json.commaSep]
      simp [readingPrints]
  rw [uploadPrints, bodyText, List.flatten_append, List.flatten_append, List.flatten_singleton,
    List.flatten_singleton, hreadings]

/-- What a run of the sensors samples is in their range, and for every batch in this range the
    offset is inside the buffer before and after every call, and at the end the buffer holds
    the whole body. -/
theorem upload_body_fits (clientId assignedName : CStr 32) (basicMode : Bool) :
    (∀ (aht : Aht21Bus) (ens : Ens160Bus) (tickPeriodMs : UInt32) (ios : List SensorInput),
      ∀ o ∈ outputs (readSensorsAndStore tickPeriodMs) (readAtStart aht ens Sensors.start) ios,
        Sampled o.record) ∧
    ∀ records : List (ClientRecord ℚ), records.length ≤ uploadBatchSize →
      (∀ rec ∈ records, Sampled rec) →
      let calls := uploadPrints clientId assignedName basicMode records
      (∀ k, ∃ c, printAll jsonBufSize .start (calls.take k) = some c ∧ c.pos < jsonBufSize) ∧
      printAll jsonBufSize .start calls =
        some ⟨bodyText clientId assignedName basicMode records,
          (bodyText clientId assignedName basicMode records).length⟩ ∧
      uploadBody clientId assignedName basicMode records =
        bodyText clientId assignedName basicMode records := by
  refine ⟨sampled_readSensors, fun records hbatch hrange => ?_⟩
  intro calls
  have hlen := length_bodyText_le clientId assignedName basicMode hrange hbatch
  have hflat : calls.flatten = bodyText clientId assignedName basicMode records :=
    flatten_uploadPrints ..
  have hfits : calls.flatten.length < jsonBufSize := by
    rw [hflat]
    exact Nat.lt_succ_of_le hlen
  refine ⟨fun k => pos_lt_of_fits hfits k, ?_, List.take_of_length_le hlen⟩
  rw [printAll_start hfits, hflat]

/-- No sampled reading has a longer text. -/
def longestReading : ClientRecord ℚ where
  timestamp := 2147483647
  uptimeSec := 4294967295
  temperature := 149
  humidity := 99
  eco2 := 65535
  tvoc := 65535
  aqi := 255
  synced := false

theorem longestReading_sampled : Sampled longestReading :=
  ⟨by decide, by constructor <;> norm_num [longestReading],
    by constructor <;> norm_num [longestReading]⟩

/-- A full batch of the longest readings. -/
theorem upload_body_fits_longest :
    Sampled longestReading ∧
    ∃ c, printAll jsonBufSize .start (uploadPrints .empty .empty false
      (List.replicate 50 longestReading)) = some c ∧ c.pos < jsonBufSize := by
  have h := ((upload_body_fits .empty .empty false).2 (List.replicate 50 longestReading)
    (by decide) fun rec hrec => List.eq_of_mem_replicate hrec ▸ longestReading_sampled).1
    (uploadPrints .empty .empty false (List.replicate 50 longestReading)).length
  rw [List.take_length] at h
  exact ⟨longestReading_sampled, h⟩

end IndoorLogger
