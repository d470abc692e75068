import IndoorLogger.Client.ServerConnection
import IndoorLogger.Client.SleepClock
import IndoorLogger.Lib.ReferenceClock
import IndoorLogger.Sensors.ReadSensors
import IndoorLogger.Server.History
import IndoorLogger.Sync.ConfigPush

/-
  The way of the time from the server's clock to the timestamps of readings. The client asks for
  it before an upload and finds it in the answer to an upload; in between its clock runs by
  itself and stands still in light sleep. A reading is stamped with the server's time less what
  the last of these answers was late, and with what sleeps and SNTP have made of it since
  (`readings_keep_server_time`).
-/

namespace IndoorLogger

open Decimal Json Machine ReferenceClock

/-! ## The server -/

/-- `xTaskGetTickCount()`, `server_start_tick` and `portTICK_PERIOD_MS`. -/
structure ServerTicks where
  count : UInt32
  start : UInt32
  periodMs : UInt32

/-- `server_get_timestamp`; `now` is `time(NULL)`. -/
def serverGetTimestamp (now : Int) (ticks : ServerTicks) : UInt32 :=
  if now > 0 then UInt32.ofInt now else (ticks.count - ticks.start) * ticks.periodMs / 1000

/-- The document that a response sends. -/
def Response.document : Response → List UInt8
  | .json _ text => text
  | .upload r => r.text
  | _ => []

/-! ## The client -/

/-- What happens to a request for the time. -/
structure TimeIo where
  resolved : Bool := true
  connected : Bool := true
  stillConnected : Bool := true
  perform : EspErr := .ok
  status : Nat := 200
  malloc : Bool := false

def TimeIo.Succeeds (io : TimeIo) : Prop :=
  io.connected = true ∧ io.resolved = true ∧ io.stillConnected = true ∧ io.perform = .ok ∧
    io.status = 200 ∧ io.malloc = false

instance (io : TimeIo) : Decidable io.Succeeds := inferInstanceAs (Decidable (_ ∧ _))

/-- What happens to the answer to an upload. -/
structure AnswerIo where
  perform : EspErr := .ok
  malloc : Bool := false
  apply : ApplyIo := {}

def AnswerIo.Succeeds (io : AnswerIo) : Prop := io.perform = .ok ∧ io.malloc = false

instance (io : AnswerIo) : Decidable io.Succeeds := inferInstanceAs (Decidable (_ ∧ _))

section

variable (cJSONParse : List UInt8 → Option Json) (hz : UInt32)

/-- `wifi_sync_get_server_time`, with what it leaves in `*timestamp`. -/
def wifiSyncGetServerTime (io : TimeIo) (body : List UInt8) (timestamp : UInt32) :
    EspErr × UInt32 :=
  if !io.resolved || !io.stillConnected then (.other 0x103, timestamp)
  else if io.perform = .ok ∧ io.status = 200 then
    if io.malloc then (io.perform, timestamp)
    else
      match cJSONParse (cString (httpReadResponse body.length body)) with
      | none => (io.perform, timestamp)
      | some root => (io.perform, (uint32Member root "timestamp").getD timestamp)
  else (io.perform, timestamp)

/-- `settimeofday` with a time of the server's, where there is one. -/
def setClock (ts : Option UInt32) (c : WallClock) : WallClock :=
  match ts with
  | some ts => (clockStep hz c (.sync ts)).1
  | none => c

/-- `client_sync_time_with_server`, up to the time that it sets. -/
def clientSyncTimeWithServer (io : TimeIo) (body : List UInt8) : Option UInt32 :=
  if !io.connected then none
  else
    let r := wifiSyncGetServerTime cJSONParse io body 0
    if r.1 = .ok ∧ r.2 > 0 then some r.2 else none

/-- The time that the answer to an upload sets; `d` is the rest of the device. -/
def applyAnswer (io : AnswerIo) (body : List UInt8) (d : Device) : Option UInt32 :=
  if io.perform = .ok ∧ io.malloc = false then
    match cJSONParse (cString (httpReadResponse body.length body)) with
    | none => none
    | some root => (applyServerConfig io.apply root { d with timeOfDay := none }).timeOfDay
  else none

end

/-! ## Server and client -/

/-- How long a request takes until the server reads its clock, and its answer until the client
    has it. -/
structure RoundTrip where
  before : Nat
  after : Nat
  ticks : ServerTicks

/-- The time that the server answers; `c` is when the request is made. -/
def RoundTrip.timestamp (x : RoundTrip) (c : WallClock) : UInt32 :=
  serverGetTimestamp ((c.trueMicros + x.before) / 1000000) x.ticks

/-- The client's clock, beside the server's as the true time, and its last sensor values. -/
structure TimedClient where
  clock : WallClock
  sensors : Sensors

/-- The client's clock is `ahead` microseconds ahead of the server's, but for the wraps of its
    seconds. -/
def TimedClient.IsAhead (s : TimedClient) (ahead : Int) : Prop :=
  s.clock.tv = Timeval.ofMicros (s.clock.trueMicros + ahead)

/-- What happens to the clocks: time passes, the client sleeps, SNTP sets the server's clock, the
    client asks for the time or has an answer to an upload, or it takes a reading. -/
inductive TimeInput where
  | awake (micros : Nat)
  | sleep (site : SleepSite) (micros : Nat) (getOk : Bool)
  | sntp (micros : Int)
  | time (io : TimeIo) (x : RoundTrip)
  | upload (io : AnswerIo) (d : Device) (st : ServerState) (id : Id) (accepted : Nat)
      (x : RoundTrip)
  | sample (io : SensorInput)

section

variable (cJSONParse : List UInt8 → Option Json) (hz : UInt32)

/-- The time that a step sets the client's clock to. -/
def timeSet (s : TimedClient) : TimeInput → Option UInt32
  | .time io x =>
    clientSyncTimeWithServer cJSONParse io (timeGetHandler (x.timestamp s.clock)).document
  | .upload io d st id accepted x =>
    applyAnswer cJSONParse io
      (Response.upload (uploadReply st id accepted (x.timestamp s.clock))).document d
  | _ => none

/-- A reading takes its time from the clock. -/
def timeStep (s : TimedClient) (i : TimeInput) : TimedClient × Option (ClientRecord ℚ) :=
  match i with
  | .awake micros => ({ s with clock := (clockStep hz s.clock (.awake micros)).1 }, none)
  | .sleep site micros getOk =>
    ({ s with clock := (clockStep hz s.clock (.sleep site micros getOk)).1 }, none)
  | .sntp micros => ({ s with clock := { s.clock with trueMicros := micros } }, none)
  | .time _ x =>
    let clock := (clockStep hz s.clock (.awake (x.before + x.after))).1
    ({ s with clock := setClock hz (timeSet cJSONParse s i) clock }, none)
  | .upload _ _ _ _ _ x =>
    let clock := (clockStep hz s.clock (.awake (x.before + x.after))).1
    ({ s with clock := setClock hz (timeSet cJSONParse s i) clock }, none)
  | .sample io =>
    let r := readSensorsAndStore (1000 / hz) s.sensors { io with time := s.clock.tv.sec }
    ({ s with sensors := r.1 }, some r.2.record)

end

/-- The time that passes while a request is under way. -/
def TimeInput.way : TimeInput → Nat
  | .time _ x => x.before + x.after
  | .upload _ _ _ _ _ x => x.before + x.after
  | _ => 0

/-- What the clock gains on the server's where it is not set. -/
def clockGain (hz : UInt32) (s : TimedClient) : TimeInput → Int
  | .sleep site micros getOk =>
    (if getOk then (plannedSleepMs hz site).toNat * 1000 else 0 : Nat) - micros
  | .sntp micros => s.clock.trueMicros - micros
  | _ => 0

/-- A clock that is set to a time late at `now`, or gains. -/
def clockEvent (now gain : Int) : Option UInt32 → Event Int
  | some ts => .set (now - ts.toNat * 1000000)
  | none => .gain gain

/-- A step as the clock of the abstract layer has it. -/
def timeEvent (cJSONParse : List UInt8 → Option Json) (hz : UInt32) (s : TimedClient)
    (i : TimeInput) : Event Int :=
  clockEvent (s.clock.trueMicros + i.way) (clockGain hz s i) (timeSet cJSONParse s i)

/-- A request for the time, or an upload, whose answer arrives; the answer to the upload fits into
    its buffer and needs no escape. -/
def SetsTime (s : TimedClient) (x : RoundTrip) : TimeInput → Prop
  | .time io x' => x' = x ∧ io.Succeeds
  | .upload io _ st id accepted x' => x' = x ∧ io.Succeeds ∧ accepted < 10 ^ 10 ∧
      (uploadReply st id accepted (x.timestamp s.clock)).PlainText
  | _ => False

/-! ## One step -/

section

variable {cJSONParse : List UInt8 → Option Json}
  (hparse : ∀ t v, Json.parse t = some v → cJSONParse t = some v) {hz : UInt32}

/-- The document of the answer to a request for the time. -/
theorem reads_timeDocument (now : UInt32) :
    Reads (timeGetHandler now).document (.obj [(ascii "timestamp", .num now.toNat)]) := by
  have htext : (timeGetHandler now).document = 123 :: (commaSep
      ([(ascii "timestamp", formatNat now.toNat)].map memberText) ++ [125]) := by
    unfold timeGetHandler Response.document
    simp [commaSep, memberText, ascii]
  rw [htext]
  exact reads_obj (readsMember rfl (reads_nat _)) .nil

theorem parse_timeDocument (now : UInt32) :
    Json.parse (cString (httpReadResponse (timeGetHandler now).document.length
      (timeGetHandler now).document)) = some (.obj [(ascii "timestamp", .num now.toNat)]) := by
  have hnul : NoNul (timeGetHandler now).document :=
    ((noNul_of_all (t := ascii "\x7b\"timestamp\":") rfl).append
      (noNul_formatNat now.toNat)).append (noNul_of_all rfl)
  have hdigits : (formatNat now.toNat).length ≤ 10 :=
    length_formatNat_of_lt (by decide) (now.toNat_lt.trans (by decide))
  have hlen : (timeGetHandler now).document.length = 13 + (formatNat now.toNat).length + 1 := by
    unfold timeGetHandler Response.document
    rw [List.length_append, List.length_append]
    rfl
  rw [cString_httpReadResponse hnul (by omega) (by omega)]
  exact (reads_timeDocument now).parse_eq

include hparse in
theorem wifiSyncGetServerTime_succeeds {io : TimeIo} (h : io.Succeeds) (now : UInt32) :
    wifiSyncGetServerTime cJSONParse io (timeGetHandler now).document 0 = (.ok, now) := by
  obtain ⟨-, hres, hstill, hret, hstatus, hmalloc⟩ := h
  have hmember : uint32Member (.obj [(ascii "timestamp", .num now.toNat)]) "timestamp" =
      some now := uint32Member_of rfl
  unfold wifiSyncGetServerTime
  rw [hparse _ _ (parse_timeDocument now)]
  dsimp only
  rw [hmember, hres, hstill, hmalloc, hret, hstatus]
  rfl

include hparse in
/-- A request for the time that succeeds sets the clock, unless the time is zero. -/
theorem clientSyncTime_succeeds {io : TimeIo} (h : io.Succeeds) {now : UInt32} (hnow : now ≠ 0) :
    clientSyncTimeWithServer cJSONParse io (timeGetHandler now).document = some now := by
  unfold clientSyncTimeWithServer
  rw [h.1, wifiSyncGetServerTime_succeeds hparse h]
  dsimp only
  rw [if_neg (by decide), if_pos ⟨rfl, UInt32.pos_iff_ne_zero.mpr hnow⟩]

theorem timeOfDay_applyServerConfig (io : ApplyIo) (root : Json) (d : Device) :
    (applyServerConfig io root d).timeOfDay = (d.applyTimestamp root).timeOfDay := by
  have hsync : ∀ d : Device, (d.applySyncInterval root).timeOfDay = d.timeOfDay := by
    intro d
    obtain ⟨val, h⟩ := d.applySyncInterval_eq root
    rw [h]
  have hname : ∀ d : Device, (d.applyName io root).timeOfDay = d.timeOfDay := by
    intro d
    obtain ⟨name, nvs, h⟩ := d.applyName_eq io root
    rw [h]
  have htz : ∀ d : Device, (d.applyTimezone root).timeOfDay = d.timeOfDay := by
    intro d
    obtain ⟨tz, h⟩ := d.applyTimezone_eq root
    rw [h]
  have hmode : ∀ d : Device, (d.applyBasicMode io root).timeOfDay = d.timeOfDay := by
    intro d
    obtain ⟨mode, nvs, h⟩ := d.applyBasicMode_eq io root
    rw [h]
  have hid : ∀ d : Device, (d.applyId io root).timeOfDay = d.timeOfDay := by
    intro d
    obtain ⟨id, nvs, url, changed, new, h⟩ := d.applyId_eq io root
    rw [h]
  unfold applyServerConfig
  dsimp only
  rw [hid, hmode, htz, hname, hsync]

include hparse in
/-- An answer to an upload that arrives sets the clock. -/
theorem applyAnswer_succeeds {io : AnswerIo} (h : io.Succeeds) {r : UploadReply}
    (hfits : r.accepted < 10 ^ 10) (hplain : r.PlainText) (d : Device) :
    applyAnswer cJSONParse io (Response.upload r).document d = some r.timestamp := by
  have hread : cJSONParse (cString (httpReadResponse r.text.length r.text)) = some r.json := by
    rw [httpReadResponse_text (length_replyText_le hfits)]
    exact hparse _ _ (reads_replyText hplain).parse_eq
  have harrives : io.perform = .ok ∧ io.malloc = false := h
  unfold applyAnswer Response.document
  dsimp only
  rw [if_pos harrives, hread]
  dsimp only
  rw [timeOfDay_applyServerConfig, Device.applyTimestamp_json]

include hparse in
/-- An answer that arrives sets the clock to the time the server read. -/
theorem timeSet_eq {s : TimedClient} {x : RoundTrip} {i : TimeInput} (h : SetsTime s x i)
    (hts : x.timestamp s.clock ≠ 0) :
    timeSet cJSONParse s i = some (x.timestamp s.clock) ∧ i.way = x.before + x.after := by
  cases i with
  | time io x' =>
    obtain ⟨rfl, hio⟩ := h
    exact ⟨clientSyncTime_succeeds hparse hio hts, rfl⟩
  | upload io d st id accepted x' =>
    obtain ⟨rfl, hio, hfits, hplain⟩ := h
    exact ⟨applyAnswer_succeeds hparse hio hfits hplain d, rfl⟩
  | awake micros => cases h
  | sleep site micros getOk => cases h
  | sntp micros => cases h
  | sample io => cases h

/-! ## Runs -/

/-- A client awake keeps up with the server. -/
theorem isAhead_awake {c : WallClock} {a : Int} (h : c.tv = Timeval.ofMicros (c.trueMicros + a))
    (micros : Nat) :
    (clockStep hz c (.awake micros)).1.tv = Timeval.ofMicros (c.trueMicros + micros + a) := by
  unfold clockStep
  dsimp only
  rw [h, ofMicros_add]
  congr 1
  omega

/-- An answer comes after some time, and sets the clock or not. -/
theorem isAhead_answered {c : WallClock} {a : Int}
    (h : c.tv = Timeval.ofMicros (c.trueMicros + a)) (ts : Option UInt32) (way : Nat) :
    let c' := setClock hz ts (clockStep hz c (.awake way)).1
    c'.tv = Timeval.ofMicros
        (c'.trueMicros + (clockEvent (c.trueMicros + way) 0 ts).apply a) := by
  intro c'
  cases ts with
  | none =>
    have hgain : (clockEvent (c.trueMicros + way) 0 none).apply a = a := add_zero a
    rw [hgain]
    exact isAhead_awake h way
  | some ts =>
    have htrue : c'.trueMicros = c.trueMicros + way := rfl
    have hlate : c.trueMicros + way + (clockEvent (c.trueMicros + way) 0 (some ts)).apply a =
        ts.toNat * 1000000 := by
      unfold clockEvent Event.apply
      dsimp only
      omega
    rw [htrue, hlate]
    exact sync_eq ts

/-- One step of the two clocks is one event of the client's beside the server's. -/
theorem isAhead_timeStep {s : TimedClient} {a : Int} (h : s.IsAhead a) (i : TimeInput) :
    (timeStep cJSONParse hz s i).1.IsAhead ((timeEvent cJSONParse hz s i).apply a) := by
  have hgain : ∀ d : Int, (Event.gain d).apply a = a + d := fun _ => rfl
  cases i with
  | awake micros =>
    have hevent : timeEvent cJSONParse hz s (.awake micros) = .gain 0 := rfl
    rw [hevent, hgain, add_zero]
    exact @isAhead_awake hz s.clock a h micros
  | sleep site micros getOk =>
    have hevent : timeEvent cJSONParse hz s (.sleep site micros getOk) =
        .gain ((if getOk then (plannedSleepMs hz site).toNat * 1000 else 0 : Nat) - micros) := rfl
    have hnorm : s.clock.tv.Normalised := by
      rw [h]
      exact (ofMicros_spec _).1
    have hadjust := adjust_eq hnorm getOk (plannedSleepMs hz site)
    rw [hevent, hgain]
    unfold TimedClient.IsAhead timeStep clockStep
    dsimp only
    rw [hadjust, h, ofMicros_add]
    congr 1
    omega
  | sntp micros =>
    have hevent : timeEvent cJSONParse hz s (.sntp micros) =
        .gain (s.clock.trueMicros - micros) := rfl
    rw [hevent, hgain]
    unfold TimedClient.IsAhead timeStep
    dsimp only
    rw [h]
    congr 1
    omega
  | time io x => exact isAhead_answered h _ _
  | upload io d st id accepted x => exact isAhead_answered h _ _
  | sample io =>
    have hevent : timeEvent cJSONParse hz s (.sample io) = .gain 0 := rfl
    rw [hevent, hgain, add_zero]
    exact h

/-- The events of a run. -/
def timeEvents (cJSONParse : List UInt8 → Option Json) (hz : UInt32) (s : TimedClient) :
    List TimeInput → List (Event Int)
  | [] => []
  | i :: is =>
    timeEvent cJSONParse hz s i :: timeEvents cJSONParse hz (timeStep cJSONParse hz s i).1 is

theorem timeEvents_append (s : TimedClient) (is js : List TimeInput) :
    timeEvents cJSONParse hz s (is ++ js) = timeEvents cJSONParse hz s is ++
      timeEvents cJSONParse hz (final (timeStep cJSONParse hz) s is) js := by
  induction is generalizing s with
  | nil => rfl
  | cons i is ih => exact congrArg (timeEvent cJSONParse hz s i :: ·) (ih _)

theorem isAhead_final {s : TimedClient} {a : Int} (h : s.IsAhead a) (is : List TimeInput) :
    (final (timeStep cJSONParse hz) s is).IsAhead
      (deviation a (timeEvents cJSONParse hz s is)) := by
  induction is generalizing s a with
  | nil => exact h
  | cons i is ih => exact ih (isAhead_timeStep h i)

theorem length_timeEvents (s : TimedClient) (is : List TimeInput) :
    (timeEvents cJSONParse hz s is).length = is.length := by
  induction is generalizing s with
  | nil => rfl
  | cons i is ih => exact congrArg (· + 1) (ih _)

/-- The events of a run without an answer are gains. -/
theorem mem_timeEvents {s : TimedClient} {is : List TimeInput} {P : Int → Prop}
    (h : Meets (timeStep cJSONParse hz)
      (fun s i => timeSet cJSONParse s i = none ∧ P (clockGain hz s i)) s is) :
    ∀ e ∈ timeEvents cJSONParse hz s is, ∃ d, e = .gain d ∧ P d := by
  induction is generalizing s with
  | nil => exact fun e he => absurd he List.not_mem_nil
  | cons i is ih =>
    intro e he
    rcases List.mem_cons.mp he with rfl | he
    · exact ⟨clockGain hz s i, by rw [timeEvent, h.1.1, clockEvent], h.1.2⟩
    · exact ih h.2 e he

/-! ## Timestamps -/

/-- An answer is late by the fraction of the second that it leaves out, and by its way. -/
theorem late_mem {x : RoundTrip} {c : WallClock} (hlo : 1000000 ≤ c.trueMicros + x.before)
    (hhi : c.trueMicros + x.before < 2 ^ 32 * 1000000) :
    let late := c.trueMicros + (x.before + x.after : Nat) - (x.timestamp c).toNat * 1000000
    x.timestamp c ≠ 0 ∧ 0 ≤ late ∧ late < 1000000 + x.after := by
  intro late
  have hts : ((x.timestamp c).toNat : Int) = (c.trueMicros + x.before) / 1000000 := by
    unfold RoundTrip.timestamp serverGetTimestamp
    rw [if_pos (by omega), UInt32.ofInt, UInt32.toNat_ofNat']
    omega
  have hne : x.timestamp c ≠ 0 := by
    intro h0
    rw [h0, UInt32.toNat_zero] at hts
    omega
  refine ⟨hne, ?_⟩
  unfold late
  rw [hts]
  omega

/-- A reading is stamped with the second that the clock shows. -/
theorem timestamp_sample {s : TimedClient} {a : Int} (h : s.IsAhead a)
    (hlo : 1000000 ≤ s.clock.trueMicros + a) (hhi : s.clock.trueMicros + a < 2 ^ 31 * 1000000)
    (io : SensorInput) :
    ∃ rec, (timeStep cJSONParse hz s (.sample io)).2 = some rec ∧
      rec.timestamp.toInt = (s.clock.trueMicros + a) / 1000000 := by
  have hsec : s.clock.tv.sec = Int32.ofInt ((s.clock.trueMicros + a) / 1000000) := by
    rw [h]
    rfl
  have hint : s.clock.tv.sec.toInt = (s.clock.trueMicros + a) / 1000000 := by
    rw [hsec]
    exact Int32.toInt_ofInt_of_le (by omega) (by omega)
  have hset : ¬s.clock.tv.sec ≤ 0 := by
    rw [Int32.le_iff_toInt_le, hint, Int32.toInt_zero]
    omega
  refine ⟨_, rfl, ?_⟩
  unfold readSensorsAndStore
  dsimp only
  rw [if_neg hset, hint]

/-- The clock is not set, and gains at most `slack` either way. -/
def Steady (cJSONParse : List UInt8 → Option Json) (hz : UInt32) (slack : Nat) (s : TimedClient)
    (i : TimeInput) : Prop :=
  timeSet cJSONParse s i = none ∧ -(slack : Int) ≤ clockGain hz s i ∧ clockGain hz s i ≤ slack

theorem gained_steady {slack : Nat} {s : TimedClient} {is : List TimeInput}
    (h : Meets (timeStep cJSONParse hz) (Steady cJSONParse hz slack) s is) :
    Unset (timeEvents cJSONParse hz s is) ∧
      |gained (timeEvents cJSONParse hz s is)| ≤ is.length * slack := by
  have hmem := mem_timeEvents (P := fun d => -(slack : Int) ≤ d ∧ d ≤ slack) h
  have hunset : Unset (timeEvents cJSONParse hz s is) := by
    intro e he
    obtain ⟨d, rfl, -⟩ := hmem e he
    exact ⟨d, rfl⟩
  have hbounds := gained_mem hunset fun d hd => by
    obtain ⟨d', heq, hd'⟩ := hmem _ hd
    exact Event.gain.inj heq ▸ hd'
  rw [length_timeEvents, nsmul_eq_mul, nsmul_eq_mul, mul_neg] at hbounds
  exact ⟨hunset, abs_le.mpr hbounds⟩

/-- **Readings on the server's time.** In every run, from the last answer that sets the clock on,
    a reading's timestamp is the server's time less what that answer was late, and with what the
    clock has gained since: by sleeps that do not last as planned, and by SNTP. -/
theorem readings_keep_server_time (hparse : ∀ t v, Json.parse t = some v → cJSONParse t = some v)
    {s : TimedClient} (hn : s.clock.tv.Normalised) (before after : List TimeInput) (i : TimeInput)
    (slack : Nat) (io : SensorInput) :
    let step := timeStep cJSONParse hz
    let s₁ := final step s before
    let s₂ := (step s₁ i).1
    let s₃ := final step s₂ after
    let gain := gained (timeEvents cJSONParse hz s₂ after)
    ∀ x, SetsTime s₁ x i → 1000000 ≤ s₁.clock.trueMicros + x.before →
    s₁.clock.trueMicros + x.before < 2 ^ 32 * 1000000 →
    Meets step (Steady cJSONParse hz slack) s₂ after →
    |gain| ≤ after.length * slack ∧ ∃ late : Int, 0 ≤ late ∧ late < 1000000 + x.after ∧
      (1000000 ≤ s₃.clock.trueMicros - late + gain →
        s₃.clock.trueMicros - late + gain < 2 ^ 31 * 1000000 →
        ∃ rec, (step s₃ (.sample io)).2 = some rec ∧
          rec.timestamp.toInt = (s₃.clock.trueMicros - late + gain) / 1000000) := by
  intro step s₁ s₂ s₃ gain x hx hlo hhi hsteady
  obtain ⟨hunset, hgain⟩ := gained_steady hsteady
  obtain ⟨hts, hlate, hlate'⟩ := @late_mem x s₁.clock hlo hhi
  obtain ⟨hset, hway⟩ := timeSet_eq hparse hx hts
  have hfinal : final step s (before ++ i :: after) = s₃ := final_append s before (i :: after)
  have hstart : s.IsAhead (s.clock.tv.micros - s.clock.trueMicros) := by
    have hshown : s.clock.trueMicros + (s.clock.tv.micros - s.clock.trueMicros) =
        s.clock.tv.micros := by omega
    rw [TimedClient.IsAhead, hshown, ofMicros_micros hn]
  -- the events of the run end in the answer and what follows it
  have hevents : timeEvents cJSONParse hz s (before ++ i :: after) =
      timeEvents cJSONParse hz s before ++
        .set (s₁.clock.trueMicros + (x.before + x.after : Nat) -
          (x.timestamp s₁.clock).toNat * 1000000) :: timeEvents cJSONParse hz s₂ after := by
    rw [timeEvents_append, timeEvents, timeEvent, hset, hway, clockEvent]
  have hahead := @isAhead_final cJSONParse hz s _ hstart (before ++ i :: after)
  rw [hevents, deviation_since_set _ hunset, hfinal] at hahead
  refine ⟨hgain, _, hlate, hlate', fun h1 h2 => ?_⟩
  have hclock : ∀ late : Int, s₃.clock.trueMicros - late + gain =
      s₃.clock.trueMicros + (gain - late) := by
    intro late
    omega
  rw [hclock] at h1 h2 ⊢
  exact timestamp_sample hahead h1 h2 io

end

/-- A client that has just been started, beside a server that has been told the time. -/
def startedClient : TimedClient := ⟨⟨⟨0, 0⟩, 1700000000123456⟩, Sensors.start⟩

/-- The answer takes longer than the request. -/
def slowRequest : RoundTrip := ⟨20000, 350000, ⟨0, 0, 10⟩⟩

/-- No sensor answers. -/
def silentSensors (ticks : UInt32) : SensorInput :=
  ⟨⟨fun _ => false, fun _ => none⟩, ⟨fun _ => none, none, fun _ _ => false⟩, ticks, 0, true⟩

/-- The answer to an upload that reaches the client; before, it asked for the time. -/
def firstAnswer : TimeInput :=
  .upload {} bootDevice bootState (CStr.strncpy (ascii "1")) 3 slowRequest

/-- A later request for the time fails, and the button wakes the client four seconds early. -/
theorem readings_keep_server_time_woken :
    let step := timeStep Json.parse 100
    let s₁ := final step startedClient [.time {} slowRequest, .awake 2000000]
    let s₂ := (step s₁ firstAnswer).1
    let after := [.awake 5000000, .sleep .timerCycle 300000000 true,
      .time { connected := false } slowRequest, .sleep (.loop 500) 1000000 true]
    let s₃ := final step s₂ after
    let gain := gained (timeEvents Json.parse 100 s₂ after)
    |gain| ≤ 4 * 4000000 ∧ ∃ late : Int, 0 ≤ late ∧ late < 1000000 + 350000 ∧
      (1000000 ≤ s₃.clock.trueMicros - late + gain →
        s₃.clock.trueMicros - late + gain < 2 ^ 31 * 1000000 →
        ∃ rec, (step s₃ (.sample (silentSensors 0))).2 = some rec ∧
          rec.timestamp.toInt = (s₃.clock.trueMicros - late + gain) / 1000000) := by
  intro step s₁ s₂ after s₃ gain
  have hset : SetsTime s₁ slowRequest firstAnswer :=
    ⟨rfl, by decide, by decide, List.all_eq_true.mp rfl, List.all_eq_true.mp rfl,
      List.all_eq_true.mp rfl⟩
  exact readings_keep_server_time (fun _ _ h => h) (s := startedClient) (by decide)
    [.time {} slowRequest, .awake 2000000] after firstAnswer 4000000 (silentSensors 0) slowRequest
    hset (by decide +kernel) (by decide +kernel)
    ⟨⟨rfl, by decide +kernel, by decide +kernel⟩, ⟨rfl, by decide +kernel, by decide +kernel⟩,
      ⟨rfl, by decide +kernel, by decide +kernel⟩, ⟨rfl, by decide +kernel, by decide +kernel⟩,
      trivial⟩

end IndoorLogger
