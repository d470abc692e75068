import IndoorLogger.Server.Membership

/-
  Where the entries of the registry come from. After one request each entry is one that was
  there before, or one that the request touched, renamed, switched or checked (`mem_request`).
-/

namespace IndoorLogger

namespace RegMap

/-! ## Entries of one operation -/

section

variable {m : RegMap} {e : Entry}

theorem mem_erase {id : Id} (h : e ∈ (m.erase id).entries) : e ∈ m.entries :=
  List.mem_of_mem_filter h

theorem mem_of_mem_dedup {id : Id} {ip : Option (List UInt8)}
    (h : e ∈ (m.dedup id ip).entries) : e ∈ m.entries := by
  unfold dedup at h
  cases hv : m.victim id ip with
  | none => rwa [hv] at h
  | some v =>
    rw [hv] at h
    exact mem_erase h

theorem mem_modify {id : Id} {f : Entry → Entry} (hf : ∀ e, (f e).id = e.id)
    (h : e ∈ (m.modify id f hf).entries) : e ∈ m.entries ∨ ∃ e₀ ∈ m.entries, e = f e₀ := by
  obtain ⟨e₀, he₀, rfl⟩ := List.mem_map.mp h
  by_cases hid : e₀.id = id
  · rw [if_pos hid]
    exact .inr ⟨e₀, he₀, rfl⟩
  · rw [if_neg hid]
    exact .inl he₀

/-- An entry after an update is an old one, or the one it touched. -/
theorem mem_update {now : UInt32} {id : Id} (hid : id ≠ CStr.empty)
    {name ip : Option (List UInt8)} {overwriteName : Bool}
    (h : e ∈ (m.update now id hid name ip overwriteName).1.entries) :
    e ∈ m.entries ∨ ∃ e₀, (e₀ ∈ m.entries ∨ e₀ = blank id) ∧
      e = touch now name ip overwriteName e₀ := by
  rw [update, enroll] at h
  split at h
  · rcases mem_modify (touch_id now name ip overwriteName) h with h | ⟨e₀, he₀, rfl⟩
    · exact .inl (mem_of_mem_dedup h)
    · exact .inr ⟨e₀, .inl (mem_of_mem_dedup he₀), rfl⟩
  · split at h
    · rcases List.mem_append.mp h with h | h
      · exact .inl (mem_of_mem_dedup h)
      · exact .inr ⟨blank id, .inr rfl, List.mem_singleton.mp h⟩
    · exact .inl (mem_of_mem_dedup h)

theorem mem_rename {old new : Id} {hr : m.CanRename old new}
    (h : e ∈ (m.rename old new hr).entries) :
    e ∈ m.entries ∨ ∃ e₀ ∈ m.entries, e = { e₀ with info := { e₀.info with id := new } } := by
  obtain ⟨e₀, he₀, rfl⟩ := List.mem_map.mp h
  by_cases hid : e₀.id = old
  · rw [if_pos hid]
    exact .inr ⟨e₀, he₀, rfl⟩
  · rw [if_neg hid]
    exact .inl he₀

end

/-! ## Entries of one request -/

/-- What a request makes of an entry, one that was there or a blank one. -/
inductive Origin (cJSONParse : List UInt8 → Option Json) (m : RegMap) : Request → Entry → Prop
  | kept {r : Request} {e : Entry} (he : e ∈ m.entries)
      (hr : ∀ now timeoutSec, r ≠ .checkStale now timeoutSec) : Origin cJSONParse m r e
  | uploaded {io : UploadIo} {clock : Nat → UInt32} {req : UploadRequest} {id : ClientId}
      {root : Json} {e : Entry} (ht : uploadTarget cJSONParse io req = some (id, root))
      (he : e ∈ m.entries ∨ e = blank id) : Origin cJSONParse m (.upload io clock req)
        (touch (clock (uploadItems root).length)
          (if (uploadName root).isEmpty then none else some (uploadName root).bytes)
          (some req.ip.bytes) false e)
  | named {io : SaveIo} {now : UInt32} {uri : List UInt8} {e : Entry}
      (hid : (queryParam uri "id" 32 : Id) ≠ CStr.empty)
      (he : e ∈ m.entries ∨ e = blank (m.resolve (queryParam uri "id" 32))) :
      Origin cJSONParse m (.clientName io now uri)
        (touch now (some (queryParam uri "name" 32 : CStr 32).bytes) none true e)
  | renamed {io : RenameIo} {save : SaveIo} {uri : List UInt8} {e : Entry}
      (hnew : isValidDigitId (queryParam uri "new_id" 32)) (he : e ∈ m.entries) :
      Origin cJSONParse m (.clientId io save uri)
        { e with info := { e.info with id := queryParam uri "new_id" 32 } }
  | switched {io : SaveIo} {now : UInt32} {uri : List UInt8} {e : Entry} (value : Bool)
      (he : e ∈ m.entries) : Origin cJSONParse m (.basicModePost io now uri)
        { e with basicMode := value }
  | registered {io : SaveIo} {now : UInt32} {uri : List UInt8} {e : Entry} (value : Bool)
      (hid : (queryParam uri "id" 32 : Id) ≠ CStr.empty)
      (he : e ∈ m.entries ∨ e = blank (queryParam uri "id" 32)) :
      Origin cJSONParse m (.basicModePost io now uri)
        { touch now none none false e with basicMode := value }
  | checked {now timeoutSec : UInt32} {e : Entry} (he : e ∈ m.entries) :
      Origin cJSONParse m (.checkStale now timeoutSec)
        { e with info := e.info.markStale now timeoutSec }

variable {cJSONParse : List UInt8 → Option Json} {m : RegMap}

/-- An entry after a request to switch a mode. -/
theorem mem_setBasicMode {id : Id} {value : Bool} {e : Entry}
    (h : e ∈ (m.setBasicMode id value).entries) :
    ∃ e₀ ∈ m.entries, ∃ b, e = { e₀ with basicMode := b } := by
  rcases mem_modify (f := fun e => { e with basicMode := value }) (fun _ => rfl) h
    with h | ⟨e₀, he₀, rfl⟩
  · exact ⟨e, h, e.basicMode, rfl⟩
  · exact ⟨e₀, he₀, value, rfl⟩

/-- Every entry after a request has its origin in it. -/
theorem mem_request {r : Request} {e : Entry} (h : e ∈ (m.request cJSONParse r).entries) :
    Origin cJSONParse m r e := by
  cases r with
  | upload io clock req =>
    rw [request] at h
    cases ht : uploadTarget cJSONParse io req with
    | none =>
      rw [ht] at h
      exact .kept h fun _ _ => Request.noConfusion
    | some t =>
      rw [ht] at h
      rcases mem_update t.1.2 h with h | ⟨e₀, he₀, rfl⟩
      · exact .kept h fun _ _ => Request.noConfusion
      · exact .uploaded ht he₀
  | clientName io now uri =>
    rw [request] at h
    split at h
    case isTrue hid =>
      rcases mem_update (m.resolve_ne hid.1) h with h | ⟨e₀, he₀, rfl⟩
      · exact .kept h fun _ _ => Request.noConfusion
      · exact .named hid.1 he₀
    case isFalse => exact .kept h fun _ _ => Request.noConfusion
  | clientId io save uri =>
    rw [request] at h
    split at h
    case isTrue hacc =>
      rcases mem_rename h with h | ⟨e₀, he₀, rfl⟩
      · exact .kept h fun _ _ => Request.noConfusion
      · exact .renamed hacc.2.1 he₀
    case isFalse => exact .kept h fun _ _ => Request.noConfusion
  | clientDelete io unlinkFails uri => exact .kept (mem_erase h) fun _ _ => Request.noConfusion
  | basicModePost io now uri =>
    rw [request] at h
    cases hv : requestedMode uri with
    | none =>
      rw [hv] at h
      exact .kept h fun _ _ => Request.noConfusion
    | some v =>
      rw [hv] at h
      dsimp only at h
      by_cases hid : (queryParam uri "id" 32 : Id) ≠ CStr.empty
      · rw [dif_pos hid] at h
        obtain ⟨e₁, he₁, b, rfl⟩ := mem_setBasicMode h
        split at he₁
        · obtain ⟨e₀, he₀, b', rfl⟩ := mem_setBasicMode he₁
          exact .switched (e := e₀) b he₀
        · rcases mem_update hid he₁ with he₁ | ⟨e₀, he₀, rfl⟩
          · exact .switched b he₁
          · exact .registered b hid he₀
      · rw [dif_neg hid] at h
        exact .kept h fun _ _ => Request.noConfusion
  | syncIntervalPost uri => exact .kept h fun _ _ => Request.noConfusion
  | timezonePost uri => exact .kept h fun _ _ => Request.noConfusion
  | checkStale now timeoutSec =>
    obtain ⟨e₀, he₀, rfl⟩ := List.mem_map.mp h
    exact .checked he₀

end RegMap

end IndoorLogger
