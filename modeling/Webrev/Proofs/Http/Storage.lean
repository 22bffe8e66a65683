import Webrev.Http.Download
import Webrev.Proofs.Attempt
import Mathlib.Data.List.Nodup
import Mathlib.Data.List.Perm.Subperm

/-!
# Bodies in files

The body of a response is written to a fresh file chunk by chunk, as it arrives. After each chunk
the fresh file holds the chunks so far, one after the other, or a part of that when the device
failed, and the other files are as they were. So a file that is kept holds the whole body, in
whichever chunks it came. When anything fails after the file was made, it is taken away with what
stands in it, and the files are those from before.

## Main definitions

* `Spool.HasFreeName` : a fresh file can have a name.
* `Spool.Adds` : one more file, in which the given octets stand.
* `Spool.CarriesOut` : the device does what it is told for some time.
* `Spool.Writing` : what becomes of octets that are to be written.
* `Spool.Stores` : a body that comes in the given chunks can be stored.

## Main results

* `Spool.hasFreeName_of_length_lt` : a name is free unless there are very many files.
* `Spool.Adds.write_cases` : what becomes of one chunk.
* `Http.writeChunks_cases` : what becomes of all chunks.
* `Http.writeBody_cases` : a body is stored whole, or no file of it is left.
-/

namespace Webrev

namespace Spool

variable {base spool : Spool} {path : String} {octets : List UInt8}

/-! ### Fresh files -/

/-- Files with different numbers are told apart. -/
theorem mark_injective : Function.Injective mark := by
  have hvalue (n : Nat) : Nat.ofDigitChars 10 (mark n).toList 0 = n := by
    rw [mark, String.toList_append, String.toList_ofList, String.toList_ofList,
      Nat.ofDigitChars_append, Nat.ofDigitChars_replicate_zero, Nat.mul_zero,
      Nat.ofDigitChars_toDigits (by decide) (by decide)]
  intro m n h
  rw [← hvalue m, h, hvalue]

theorem pathOf_injective (spool : Spool) : Function.Injective spool.pathOf := fun _ _ h =>
  mark_injective ((String.append_right_inj _).mp ((String.append_left_inj _).mp h))

theorem exists?_eq_false_iff :
    spool.exists? path = false ↔ ∀ file ∈ spool.files, file.path ≠ path := by
  simp [exists?]

/-- One of the names that are tried is free. -/
def HasFreeName (spool : Spool) : Prop :=
  ∃ n < tries, ∀ file ∈ spool.files, file.path ≠ spool.pathOf (spool.made + n)

/-- A file is made when the directory is there and one of the names that are tried is free. -/
theorem create_isSome_iff :
    spool.create.isSome ↔ spool.available = true ∧ spool.HasFreeName := by
  have hfree : spool.freeNumber?.isSome ↔ spool.HasFreeName := by
    rw [freeNumber?, List.find?_isSome, HasFreeName]
    simp only [List.mem_range'_1, Bool.not_eq_true', exists?_eq_false_iff]
    constructor
    · rintro ⟨n, ⟨hle, hlt⟩, hn⟩
      exact ⟨n - spool.made, by omega, by rwa [Nat.add_sub_cancel' hle]⟩
    · rintro ⟨n, hlt, hn⟩
      exact ⟨spool.made + n, ⟨by omega, by omega⟩, hn⟩
  unfold create
  split
  · next ha => simpa [ha] using hfree
  · next ha => simp [ha]

/-- One of the names that are tried is free when there are fewer files than names. -/
theorem hasFreeName_of_length_lt (h : spool.files.length < tries) : spool.HasFreeName := by
  by_contra hnone
  unfold HasFreeName at hnone
  push Not at hnone
  -- Otherwise each name that is tried is that of another file.
  have htaken : (List.range tries).map (fun n => spool.pathOf (spool.made + n)) ⊆
      spool.files.map PatchFile.path := by
    intro path hpath
    obtain ⟨n, hn, rfl⟩ := List.mem_map.mp hpath
    obtain ⟨file, hfile, heq⟩ := hnone n (List.mem_range.mp hn)
    exact List.mem_map.mpr ⟨file, hfile, heq⟩
  have hnodup : ((List.range tries).map fun n => spool.pathOf (spool.made + n)).Nodup :=
    List.Nodup.map (fun m n heq => Nat.add_left_cancel (spool.pathOf_injective heq))
      List.nodup_range
  have hle := hnodup.length_le_of_subset htaken
  simp only [List.length_map, List.length_range] at hle
  omega

/-! ### One more file -/

/-- There is one more file than before, at a path that was free, and the octets stand in it. -/
structure Adds (base : Spool) (path : String) (octets : List UInt8) (spool : Spool) : Prop where
  files : spool.files = base.files ++ [⟨path, octets⟩]
  free : ∀ file ∈ base.files, file.path ≠ path

/-- A file that is made is one more, and empty. The device is not asked for it. -/
theorem adds_of_create (h : base.create = some (path, spool)) :
    base.Adds path [] spool ∧ spool.replies = base.replies := by
  unfold create at h
  split at h
  · obtain ⟨n, hn, hmade⟩ := Option.map_eq_some_iff.mp h
    cases hmade
    refine ⟨⟨rfl, exists?_eq_false_iff.mp ?_⟩, rfl⟩
    simpa using List.find?_some hn
  · exact nomatch h

namespace Adds

theorem answered (h : base.Adds path octets spool) : base.Adds path octets spool.answered :=
  ⟨h.files, h.free⟩

theorem extend (h : base.Adds path octets spool) (more : List UInt8) :
    base.Adds path (octets ++ more) (spool.extend path more) := by
  refine ⟨?_, h.free⟩
  have hothers : (base.files.map fun file =>
      if file.path = path then { file with contents := file.contents ++ more } else file) =
        base.files :=
    (List.map_congr_left fun file hfile => if_neg (h.free file hfile)).trans (List.map_id _)
  simp only [Spool.extend, h.files, List.map_append, hothers, List.map_cons, List.map_nil,
    ↓reduceIte]

/-- The file is read as it stands. -/
theorem fileAt_eq (h : base.Adds path octets spool) : spool.fileAt path = ⟨path, octets⟩ := by
  have hothers : base.files.find? (fun file => file.path == path) = none :=
    List.find?_eq_none.mpr fun file hfile => by simpa using h.free file hfile
  simp [fileAt, h.files, List.find?_append, hothers]

/-- When the file is taken away, the files are those from before. -/
theorem files_remove (h : base.Adds path octets spool) :
    (spool.remove path).files = base.files := by
  have hothers : base.files.filter (fun file => file.path != path) = base.files :=
    List.filter_eq_self.mpr fun file hfile => by simpa using h.free file hfile
  simp [remove, h.files, List.filter_append, hothers]

end Adds

/-! ### The device -/

/-- The device carries out the next so many requests. -/
def CarriesOut (spool : Spool) (n : Nat) : Prop := ∀ reply ∈ spool.replies.take n, reply = .done

theorem carriesOut_zero : spool.CarriesOut 0 := by simp [CarriesOut]

theorem carriesOut_succ_iff {n : Nat} :
    spool.CarriesOut (n + 1) ↔ spool.replies.headD .done = .done ∧ spool.answered.CarriesOut n := by
  unfold CarriesOut answered
  cases spool.replies with
  | nil => simp
  | cons reply rest => simp

theorem flush_eq_true_iff : spool.flush.1 = true ↔ spool.CarriesOut 1 := by
  rw [carriesOut_succ_iff, and_iff_left carriesOut_zero, flush, beq_iff_eq]

theorem CarriesOut.mono {m n : Nat} (h : spool.CarriesOut n) (hle : m ≤ n) : spool.CarriesOut m :=
  fun reply hreply => h reply ((List.take_prefix_take_left hle).subset hreply)

theorem carriesOut_extend_iff {n : Nat} :
    (spool.extend path octets).CarriesOut n ↔ spool.CarriesOut n := Iff.rfl

/-- How many requests it takes to write the chunks of a body. -/
def writes (chunks : List (List UInt8)) : Nat := chunks.countP fun chunk => !chunk.isEmpty

theorem writes_cons (chunk : List UInt8) (rest : List (List UInt8)) :
    writes (chunk :: rest) = writes [chunk] + writes rest := by
  rw [← List.singleton_append, writes, List.countP_append]
  rfl

/-- What becomes of octets that are to be written in so many requests, after others: they all stand
in the file, or only a part of them does since the device failed. -/
inductive Writing (base spool : Spool) (path : String) (before octets : List UInt8)
    (requests : Nat) : Bool → Spool → Prop
  | whole {last : Spool} (hadds : base.Adds path (before ++ octets) last)
      (hcarries : ∀ n, last.CarriesOut n ↔ spool.CarriesOut (requests + n)) :
      Writing base spool path before octets requests true last
  | cut {last : Spool} {part : List UInt8} (hpart : part <+: octets)
      (hadds : base.Adds path (before ++ part) last) (hfails : ¬spool.CarriesOut requests) :
      Writing base spool path before octets requests false last

theorem write_nil : spool.write path [] = (true, spool) := rfl

theorem write_of_done (hne : octets ≠ []) (h : spool.replies.headD .done = .done) :
    spool.write path octets = (true, spool.answered.extend path octets) := by
  rw [write, h, if_neg (by simpa using hne)]

theorem write_of_failed {written : Nat} (hne : octets ≠ [])
    (h : spool.replies.headD .done = .failed written) :
    spool.write path octets = (false, spool.answered.extend path (octets.take written)) := by
  rw [write, h, if_neg (by simpa using hne)]

/-- What becomes of one chunk. -/
theorem Adds.write_cases {before : List UInt8} (h : base.Adds path before spool)
    (chunk : List UInt8) :
    Writing base spool path before chunk (writes [chunk]) (spool.write path chunk).1
      (spool.write path chunk).2 := by
  by_cases hne : chunk = []
  · subst hne
    rw [write_nil]
    have hnone : writes [[]] = 0 := rfl
    exact .whole (by rwa [List.append_nil]) fun n => by rw [hnone, Nat.zero_add]
  · have hone : writes [chunk] = 1 := by simp [writes, hne]
    rw [hone]
    cases hreply : spool.replies.headD .done with
    | done =>
      rw [write_of_done hne hreply]
      refine .whole (h.answered.extend _) fun n => ?_
      rw [carriesOut_extend_iff, Nat.add_comm 1 n, carriesOut_succ_iff, and_iff_right hreply]
    | failed written =>
      rw [write_of_failed hne hreply]
      refine .cut (List.take_prefix _ _) (h.answered.extend _) fun hcarries => ?_
      exact nomatch hreply.symm.trans (carriesOut_succ_iff.mp hcarries).1

namespace Writing

variable {middle last : Spool} {before more : List UInt8} {whole : Bool} {m n : Nat}

theorem adds (h : Writing base spool path before octets m true last) :
    base.Adds path (before ++ octets) last := by
  cases h with
  | whole hadds => exact hadds

/-- When all octets stand in the file, more of them are written after them. -/
theorem append (h : Writing base spool path before octets m true middle)
    (hmore : Writing base middle path (before ++ octets) more n whole last) :
    Writing base spool path before (octets ++ more) (m + n) whole last := by
  cases h with
  | whole hadds hcarries =>
    cases hmore with
    | whole hmore hcarries' =>
      refine .whole (by rwa [← List.append_assoc]) fun k => ?_
      rw [hcarries', hcarries, Nat.add_assoc]
    | @cut _ part hpart hmore hfails =>
      refine .cut ((List.prefix_append_right_inj octets).mpr hpart)
        (by rwa [← List.append_assoc]) ?_
      rwa [← hcarries]

/-- When the device failed, it failed before more octets were to be written. -/
theorem append_of_cut (h : Writing base spool path before octets m false last)
    (more : List UInt8) (n : Nat) :
    Writing base spool path before (octets ++ more) (m + n) false last := by
  cases h with
  | cut hpart hadds hfails =>
    exact .cut (hpart.trans (List.prefix_append _ _)) hadds
      fun hcarries => hfails (hcarries.mono (Nat.le_add_right m n))

end Writing

/-- A body that comes in the given chunks can be stored: the directory is there, one of the names
that are tried is free, and the device carries out each write and stores what was written. -/
structure Stores (spool : Spool) (chunks : List (List UInt8)) : Prop where
  available : spool.available = true
  hasFreeName : spool.HasFreeName
  carriesOut : spool.CarriesOut (writes chunks + 1)

end Spool

namespace Http

variable {base spool : Spool} {path : String}

/-! ### Chunks -/

section Storing

variable {request : Spool → Bool × Spool}

theorem runAt_storing_of_done (h : (request spool).1 = true) :
    (storing request).runAt spool = (.ok (), (request spool).2) :=
  Prod.ext (if_pos h) rfl

theorem runAt_storing_of_failed (h : (request spool).1 = false) :
    (storing request).runAt spool = (.error .storage, (request spool).2) :=
  Prod.ext (if_neg (by simp [h])) rfl

end Storing

/-- What becomes of the chunks of a body. Either the device failed, or they all stand in the file,
and then nothing fails unless the connection breaks. -/
theorem writeChunks_cases {before : List UInt8} (h : base.Adds path before spool) (broken : Bool)
    (chunks : List (List UInt8)) :
    ∃ whole, Spool.Writing base spool path before chunks.flatten (Spool.writes chunks) whole
        ((writeChunks path broken chunks).runAt spool).2 ∧
      ((writeChunks path broken chunks).runAt spool).1 =
        if whole = false then .error .storage
        else if broken then .error .transport else .ok () := by
  -- The chunks that are written move from the rest of the body to what stands before it.
  induction chunks generalizing before spool with
  | nil =>
    have hnothing : Spool.Writing base spool path before [] 0 true spool :=
      .whole (by rwa [List.append_nil]) fun n => by rw [Nat.zero_add]
    cases broken <;> exact ⟨true, hnothing, rfl⟩
  | cons chunk rest ih =>
    have hchunk := h.write_cases chunk
    rw [List.flatten_cons, Spool.writes_cons]
    cases hw : (spool.write path chunk).1 with
    | false =>
      rw [hw] at hchunk
      have hrun : (writeChunks path broken (chunk :: rest)).runAt spool =
          (.error .storage, (spool.write path chunk).2) :=
        Attempt.runAt_bind_of_error (runAt_storing_of_failed hw)
      rw [hrun]
      exact ⟨false, hchunk.append_of_cut _ _, rfl⟩
    | true =>
      rw [hw] at hchunk
      have hrun : (writeChunks path broken (chunk :: rest)).runAt spool =
          (writeChunks path broken rest).runAt (spool.write path chunk).2 :=
        Attempt.runAt_bind_of_ok (runAt_storing_of_done hw)
      obtain ⟨whole, hrest, houtcome⟩ := ih hchunk.adds
      rw [hrun]
      exact ⟨whole, hchunk.append hrest, houtcome⟩

/-! ### Files -/

theorem runAt_removingOnFailure {α : Type} (path : String)
    (step : Attempt Spool RetrievalFault α) (spool : Spool) :
    (removingOnFailure path step).runAt spool =
      match (step.runAt spool).1 with
      | .ok a => (.ok a, (step.runAt spool).2)
      | .error fault => (.error fault, (step.runAt spool).2.remove path) := by
  rw [removingOnFailure, Attempt.runAt_tryCatch]
  cases (step.runAt spool).1 <;> rfl

/-- A file is finished when what was written to it is stored. -/
theorem runAt_finishFile {octets : List UInt8} (h : base.Adds path octets spool) :
    (finishFile path).runAt spool =
      (if spool.flush.1 then .ok ⟨path, octets⟩ else .error .storage, spool.answered) := by
  cases hf : spool.flush.1 with
  | true =>
    rw [finishFile, Attempt.runAt_bind_of_ok (runAt_storing_of_done hf)]
    exact Prod.ext (congrArg Except.ok h.answered.fileAt_eq) rfl
  | false => exact Attempt.runAt_bind_of_error (runAt_storing_of_failed hf)

/-- What becomes of a body in a file that was made for it: the file holds all of it, or the first
part of it when something fails. -/
theorem fillFile_cases (h : base.Adds path [] spool) (response : Response) :
    (((fillFile response path).runAt spool).1 = .ok ⟨path, response.bodyChunks.flatten⟩ ∧
        base.Adds path response.bodyChunks.flatten ((fillFile response path).runAt spool).2 ∧
        response.isBroken = false ∧ spool.CarriesOut (Spool.writes response.bodyChunks + 1)) ∨
      ∃ fault part, ((fillFile response path).runAt spool).1 = .error fault ∧
        part <+: response.bodyChunks.flatten ∧
        base.Adds path part ((fillFile response path).runAt spool).2 ∧
        (fault = .transport ∧ response.isBroken = true ∨
          fault = .storage ∧ ¬spool.CarriesOut (Spool.writes response.bodyChunks + 1)) := by
  obtain ⟨whole, hwriting, houtcome⟩ := writeChunks_cases h response.isBroken response.bodyChunks
  rcases hw : (writeChunks path response.isBroken response.bodyChunks).runAt spool
    with ⟨outcome, written⟩
  rw [hw] at hwriting houtcome
  cases hwriting with
  | cut hpart hadds hfails =>
    obtain rfl : outcome = .error .storage := houtcome
    have hrun : (fillFile response path).runAt spool = (.error .storage, written) :=
      Attempt.runAt_bind_of_error hw
    rw [hrun]
    exact .inr ⟨_, _, rfl, hpart, hadds,
      .inr ⟨rfl, fun hcarries => hfails (hcarries.mono (Nat.le_succ _))⟩⟩
  | whole hadds hcarries =>
    cases hb : response.isBroken with
    | true =>
      obtain rfl : outcome = .error .transport := by simpa [hb] using houtcome
      have hrun : (fillFile response path).runAt spool = (.error .transport, written) :=
        Attempt.runAt_bind_of_error hw
      rw [hrun]
      exact .inr ⟨_, _, rfl, List.prefix_rfl, hadds, .inl ⟨rfl, rfl⟩⟩
    | false =>
      obtain rfl : outcome = .ok () := by simpa [hb] using houtcome
      have hrun : (fillFile response path).runAt spool = (finishFile path).runAt written :=
        Attempt.runAt_bind_of_ok hw
      have hiff : written.flush.1 = true ↔ _ := Spool.flush_eq_true_iff.trans (hcarries 1)
      rw [hrun, runAt_finishFile hadds]
      cases hf : written.flush.1 with
      | true => exact .inl ⟨rfl, hadds.answered, rfl, hiff.mp hf⟩
      | false =>
        exact .inr ⟨_, _, rfl, List.prefix_rfl, hadds.answered,
          .inr ⟨rfl, fun hcarries => nomatch hf.symm.trans (hiff.mpr hcarries)⟩⟩

/-- **A body is stored whole, or no file of it is left.** The file of a body that is kept is one
more than before, and holds all chunks one after the other. Else the files are those from before,
and the connection broke, or the body could not be stored. -/
theorem writeBody_cases (response : Response) (spool : Spool) :
    (∃ file, ((writeBody response).runAt spool).1 = .ok file ∧
        file.contents = response.bodyChunks.flatten ∧
        spool.Adds file.path file.contents ((writeBody response).runAt spool).2 ∧
        response.isBroken = false ∧ spool.Stores response.bodyChunks) ∨
      ∃ fault, ((writeBody response).runAt spool).1 = .error fault ∧
        ((writeBody response).runAt spool).2.files = spool.files ∧
        (fault = .transport ∧ response.isBroken = true ∨
          fault = .storage ∧ ¬spool.Stores response.bodyChunks) := by
  cases hc : spool.create with
  | none =>
    have hcreate : createFile.runAt spool = (.error .storage, spool) := by
      simp only [createFile, Attempt.runAt, ExceptT.run, ExceptT.mk, hc]
    have hrun : (writeBody response).runAt spool = (.error .storage, spool) :=
      Attempt.runAt_bind_of_error hcreate
    rw [hrun]
    refine .inr ⟨_, rfl, rfl, .inr ⟨rfl, fun hstores => ?_⟩⟩
    have hmade := Spool.create_isSome_iff.mpr ⟨hstores.available, hstores.hasFreeName⟩
    rw [hc] at hmade
    exact Bool.false_ne_true hmade
  | some made =>
    obtain ⟨path, opened⟩ := made
    have hcreate : createFile.runAt spool = (.ok path, opened) := by
      simp only [createFile, Attempt.runAt, ExceptT.run, ExceptT.mk, hc]
    have hrun : (writeBody response).runAt spool =
        (removingOnFailure path (fillFile response path)).runAt opened :=
      Attempt.runAt_bind_of_ok hcreate
    obtain ⟨havailable, hfree⟩ := Spool.create_isSome_iff.mp (hc ▸ Option.isSome_some)
    obtain ⟨hopened, hreplies⟩ := Spool.adds_of_create hc
    have hcarries (n : Nat) : opened.CarriesOut n ↔ spool.CarriesOut n := by
      rw [Spool.CarriesOut, hreplies, Spool.CarriesOut]
    rw [hrun, runAt_removingOnFailure]
    rcases fillFile_cases hopened response with
      ⟨hok, hadds, hb, hdone⟩ | ⟨fault, part, herror, -, hadds, hwhy⟩
    · rw [hok]
      exact .inl ⟨_, rfl, rfl, hadds, hb, havailable, hfree, (hcarries _).mp hdone⟩
    · rw [herror]
      exact .inr ⟨fault, rfl, hadds.files_remove, hwhy.imp_right fun hwhy =>
        ⟨hwhy.1, fun hstores => hwhy.2 ((hcarries _).mpr hstores.carriesOut)⟩⟩

end Http

end Webrev
