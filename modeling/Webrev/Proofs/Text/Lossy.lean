import Webrev.Proofs.Text.Characters

/-!
# What a lossy reading replaces

Octets are cut at their front, one piece after the other: where those of a character stand they are
its piece, and where no character stands the piece is a misfit, for which the text has one
replacement character. A misfit is the longest part with which a character begins, or one octet if
no character begins with it. The lossy reader finds these pieces with one look at each octet: what
it has taken up since the last piece begins a character, and an octet that is out of place makes a
misfit of it.

## Main definitions

* `Utf8.Misfit` : a part at the front of octets that is replaced.
* `Utf8.IsLossyText` : the texts in which every misfit is replaced.
* `Utf8.Begun` : what a reader has taken up since the last piece.

## Main results

* `Utf8.Misfit.unique`, `Utf8.IsLossyText.unique` : octets are cut in one way.
* `Utf8.isLossyText_iff` : the lossy reader gives the one lossy text of any octets.
* `Utf8.decode_eq_ok_iff` : the strict reader gives a text for the octets that are one.
-/

namespace Webrev.Utf8

/-- Octets with which those of a character begin. -/
def BeginsCharacter (octets : List UInt8) : Prop := ∃ c, octets <+: String.utf8EncodeChar c

/-- A part at the front of octets that do not begin with a character. It is as long as it can be
when a character is to begin with it, or else one octet. -/
structure Misfit (part rest : List UInt8) : Prop where
  ne_nil : part ≠ []
  no_character : ∀ c, ¬String.utf8EncodeChar c <+: part ++ rest
  begins : part.length = 1 ∨ BeginsCharacter part
  longest : ∀ more, more <+: rest → more ≠ [] → ¬BeginsCharacter (part ++ more)

/-- A text is what octets say when each part of them that fits no character is replaced. -/
inductive IsLossyText : List UInt8 → List Char → Prop
  | nil : IsLossyText [] []
  | character (c : Char) {rest : List UInt8} {text : List Char} (h : IsLossyText rest text) :
      IsLossyText (String.utf8EncodeChar c ++ rest) (c :: text)
  | replaced {part rest : List UInt8} {text : List Char} (hpart : Misfit part rest)
      (h : IsLossyText rest text) : IsLossyText (part ++ rest) (replacement :: text)

/-! ### Characters that have begun -/

/-- Octets that a reader has taken up since the last character or misfit, and where it stands after
them. -/
inductive Begun : List UInt8 → State → Prop
  | nil : Begun [] .between
  | more {octets : List UInt8} {state next : State} {b : UInt8} (h : Begun octets state)
      (hstep : state.step b = .more next) : Begun (octets ++ [b]) next

/-- Inside a character that owes octets there are octets that complete one. -/
theorem State.exists_reads_inside (owed seen value : Nat) {low high : UInt8}
    (hbounds : low.toNat ≤ high.toNat) :
    ∃ rest c, Reads (.inside seen (owed + 1) low high value) rest c := by
  induction owed generalizing seen value low high with
  | zero => exact ⟨[low], _, reads_inside_cons_iff.mpr ⟨⟨Nat.le_refl _, hbounds⟩, rfl, rfl⟩⟩
  | succ owed ih =>
    obtain ⟨rest, c, hrest⟩ :=
      @ih (seen + 1) (value * 64 + (low.toNat - 0x80)) 0x80 0xBF (by decide)
    refine ⟨low :: rest, c, reads_inside_cons_iff.mpr ⟨⟨Nat.le_refl _, hbounds⟩, ?_⟩⟩
    rw [if_neg (by omega)]
    exact hrest

/-- A state that an octet leads on to is one from which a character is completed. -/
theorem State.exists_reads_of_more {state next : State} {b : UInt8}
    (h : state.step b = .more next) : ∃ rest c, Reads next rest c := by
  cases state with
  | between =>
    simp only [State.step, first] at h
    split_ifs at h
    all_goals
      obtain rfl := Outcome.more.inj h
      exact State.exists_reads_inside _ _ _ (by decide)
  | inside seen owed low high value =>
    simp only [State.step] at h
    split_ifs at h with hin howed
    obtain rfl := Outcome.more.inj h
    obtain ⟨more, rfl⟩ : ∃ more, owed = more + 2 := ⟨owed - 2, by omega⟩
    exact State.exists_reads_inside more _ _ (by decide)

namespace Begun

variable {octets : List UInt8} {state : State}

theorem reads_iff (h : Begun octets state) {rest : List UInt8} {c : Char} :
    Reads .between (octets ++ rest) c ↔ Reads state rest c := by
  induction h generalizing rest with
  | nil => exact Iff.rfl
  | more _ hstep ih =>
    rw [List.append_assoc, List.singleton_append, ih, reads_cons_iff]
    simp [hstep]

theorem exists_reads (h : Begun octets state) : ∃ rest c, Reads state rest c := by
  cases h with
  | nil => exact ⟨_, _, reads_encodeChar 'A'⟩
  | more _ hstep => exact State.exists_reads_of_more hstep

/-- Octets that a reader has taken up begin a character. -/
theorem beginsCharacter (h : Begun octets state) : BeginsCharacter octets := by
  obtain ⟨rest, c, hrest⟩ := h.exists_reads
  exact ⟨c, rest, (h.reads_iff.mpr hrest).eq_encodeChar⟩

/-- An octet that completes a character. -/
theorem eq_encodeChar (h : Begun octets state) {b : UInt8} {c : Char}
    (hstep : state.step b = .character c) : octets ++ [b] = String.utf8EncodeChar c :=
  (h.reads_iff.mpr (.last hstep)).eq_encodeChar

/-- With an octet that is out of place no character begins. -/
theorem not_beginsCharacter (h : Begun octets state) {b : UInt8} (hstep : state.step b = .misplaced)
    (more : List UInt8) : ¬BeginsCharacter (octets ++ b :: more) := by
  rintro ⟨c, rest, hc⟩
  have hread : Reads .between (octets ++ b :: (more ++ rest)) c :=
    reads_between_iff.mpr (by rw [← hc, List.append_assoc, List.cons_append])
  rcases reads_cons_iff.mp (h.reads_iff.mp hread) with ⟨-, hother⟩ | ⟨next, hother, -⟩
  · exact nomatch hstep.symm.trans hother
  · exact nomatch hstep.symm.trans hother

/-- Octets that a reader has taken up, and is still in the middle of, hold no whole character. -/
theorem not_prefix (h : Begun octets state) (c : Char) : ¬String.utf8EncodeChar c <+: octets := by
  rintro ⟨more, rfl⟩
  obtain ⟨rest, other, hrest⟩ := h.exists_reads
  have hread := h.reads_iff.mpr hrest
  rw [List.append_assoc] at hread
  obtain ⟨hnil, -⟩ := (reads_encodeChar c).eq_of_append hread
  exact hrest.ne_nil (List.append_eq_nil_iff.mp hnil).2

theorem ne_nil (h : Begun octets state) (hstate : state ≠ .between) : octets ≠ [] := by
  cases h with
  | nil => exact absurd rfl hstate
  | more => simp

/-- What a reader has taken up is a misfit when the next octet is out of place. -/
theorem misfit (h : Begun octets state) (hne : octets ≠ []) {b : UInt8}
    (hstep : state.step b = .misplaced) (rest : List UInt8) : Misfit octets (b :: rest) where
  ne_nil := hne
  no_character c hc := by
    rcases List.prefix_or_prefix_of_prefix hc (List.prefix_append octets _) with hin | ⟨more, he⟩
    · exact h.not_prefix c hin
    · rw [← he, List.prefix_append_right_inj] at hc
      rcases List.prefix_cons_iff.mp hc with rfl | ⟨more, rfl, -⟩
      · exact h.not_prefix c ⟨[], by rw [List.append_nil, ← he, List.append_nil]⟩
      · exact h.not_beginsCharacter hstep more ⟨c, he ▸ List.prefix_rfl⟩
  begins := .inr h.beginsCharacter
  longest more hmore hmore_ne := by
    obtain rfl | ⟨more, rfl, -⟩ := List.prefix_cons_iff.mp hmore
    · exact absurd rfl hmore_ne
    · exact h.not_beginsCharacter hstep more

/-- What a reader has taken up is a misfit when nothing follows. -/
theorem misfit_nil (h : Begun octets state) (hne : octets ≠ []) : Misfit octets [] where
  ne_nil := hne
  no_character c hc := h.not_prefix c (List.append_nil octets ▸ hc)
  begins := .inr h.beginsCharacter
  longest _ hmore hmore_ne := absurd (List.prefix_nil.mp hmore) hmore_ne

end Begun

/-- An octet with which no character begins is a misfit. -/
theorem misfit_singleton {b : UInt8} (hstep : State.between.step b = .misplaced)
    (rest : List UInt8) : Misfit [b] rest where
  ne_nil := List.cons_ne_nil b []
  no_character c hc := by
    obtain he | ⟨more, he, -⟩ := List.prefix_cons_iff.mp hc
    · exact (reads_encodeChar c).ne_nil he
    · exact Begun.nil.not_beginsCharacter hstep more ⟨c, he ▸ List.prefix_rfl⟩
  begins := .inl rfl
  longest more _ _ := Begun.nil.not_beginsCharacter hstep more

/-! ### The lossy reader -/

/-- What a lossy reader writes from a state on, up to the end of the text. -/
def State.textOf (state : State) (octets : List UInt8) : List Char :=
  (decodeFrom state octets).1 ++ (decodeFrom state octets).2.finish

namespace State

variable {state : State} {b : UInt8} (rest : List UInt8)

theorem textOf_of_character {c : Char} (h : state.step b = .character c) :
    state.textOf (b :: rest) = c :: State.between.textOf rest := by
  simp [textOf, decodeFrom, stepLossy, h]

theorem textOf_of_more {next : State} (h : state.step b = .more next) :
    state.textOf (b :: rest) = next.textOf rest := by
  simp [textOf, decodeFrom, stepLossy, h]

theorem textOf_between_of_misplaced (h : State.between.step b = .misplaced) :
    State.between.textOf (b :: rest) = replacement :: State.between.textOf rest := by
  simp [textOf, decodeFrom, stepLossy, h]

/-- An octet that is out of place inside a character is read afresh. -/
theorem textOf_inside_of_misplaced (hstate : state ≠ .between) (h : state.step b = .misplaced) :
    state.textOf (b :: rest) = replacement :: State.between.textOf (b :: rest) := by
  have hafresh : restart b = State.between.stepLossy b := by
    rw [restart, stepLossy, State.step]
  have hstep : state.stepLossy b =
      (replacement :: (State.between.stepLossy b).1, (State.between.stepLossy b).2) := by
    rw [← hafresh]
    cases state with
    | between => exact absurd rfl hstate
    | inside => simp only [stepLossy, h]
  simp only [textOf, decodeFrom, hstep, List.cons_append]

end State

theorem Begun.eq_nil {octets : List UInt8} (h : Begun octets .between) : octets = [] := by
  generalize hs : State.between = state at h
  cases h with
  | nil => rfl
  | more _ hstep => exact absurd (hs ▸ hstep) (State.step_ne_more_between _ _)

/-- What is read of the rest of octets is a lossy text of all of them. -/
theorem Begun.isLossyText {octets : List UInt8} {state : State} (h : Begun octets state)
    (rest : List UInt8) : IsLossyText (octets ++ rest) (state.textOf rest) := by
  induction rest generalizing octets state with
  | nil =>
    by_cases hstate : state = .between
    · subst hstate
      rw [h.eq_nil]
      exact .nil
    · have hfinish : state.textOf [] = [replacement] := by
        cases state with
        | between => exact absurd rfl hstate
        | inside => rfl
      rw [hfinish]
      exact .replaced (h.misfit_nil (h.ne_nil hstate)) .nil
  | cons b rest ih =>
    -- An octet that is out of place is read afresh, between two characters.
    have hgo {octets : List UInt8} {state : State} (h : Begun octets state)
        (hfresh : state.step b = .misplaced →
          IsLossyText (octets ++ b :: rest) (state.textOf (b :: rest))) :
        IsLossyText (octets ++ b :: rest) (state.textOf (b :: rest)) := by
      cases hstep : state.step b with
      | character c =>
        rw [State.textOf_of_character rest hstep, List.append_cons, h.eq_encodeChar hstep]
        exact .character c (ih .nil)
      | more next =>
        rw [State.textOf_of_more rest hstep, List.append_cons]
        exact ih (.more h hstep)
      | misplaced => exact hfresh hstep
    have hbetween : IsLossyText (b :: rest) (State.between.textOf (b :: rest)) :=
      hgo .nil fun hstep => by
        rw [State.textOf_between_of_misplaced rest hstep, List.nil_append, ← List.singleton_append]
        exact .replaced (misfit_singleton hstep rest) (ih .nil)
    refine hgo h fun hstep => ?_
    by_cases hstate : state = .between
    · subst hstate
      rw [h.eq_nil]
      exact hbetween
    · rw [State.textOf_inside_of_misplaced rest hstate hstep]
      exact .replaced (h.misfit (h.ne_nil hstate) hstep rest) hbetween

/-! ### There is one lossy text -/

/-- A misfit is as long as it can be. -/
theorem Misfit.eq_nil_of_append {part more rest : List UInt8} (h : Misfit part (more ++ rest))
    (hmore : Misfit (part ++ more) rest) : more = [] := by
  by_contra hne
  rcases hmore.begins with hone | hbegins
  · have hpart := List.length_pos_of_ne_nil h.ne_nil
    have hlength := List.length_pos_of_ne_nil hne
    rw [List.length_append] at hone
    omega
  · exact h.longest more (List.prefix_append ..) hne hbegins

/-- Octets have one misfit at their front. -/
theorem Misfit.unique {part rest part' rest' : List UInt8} (h : Misfit part rest)
    (h' : Misfit part' rest') (he : part ++ rest = part' ++ rest') :
    part = part' ∧ rest = rest' := by
  rcases List.append_eq_append_iff.mp he with ⟨more, rfl, rfl⟩ | ⟨more, rfl, rfl⟩
  · obtain rfl := h.eq_nil_of_append h'
    exact ⟨(List.append_nil _).symm, rfl⟩
  · obtain rfl := h'.eq_nil_of_append h
    exact ⟨List.append_nil _, rfl⟩

/-- Octets have one character at their front. -/
theorem encodeChar_append_inj {c c' : Char} {rest rest' : List UInt8}
    (he : String.utf8EncodeChar c ++ rest = String.utf8EncodeChar c' ++ rest') :
    c = c' ∧ rest = rest' := by
  have hread := congrArg (fun octets => (decodeFrom .between octets).1.head?) he
  simp only [(reads_encodeChar _).decodeFrom_append, List.head?_cons, Option.some.injEq] at hread
  subst hread
  exact ⟨rfl, List.append_cancel_left he⟩

/-- Octets have one lossy text. -/
theorem IsLossyText.unique {octets : List UInt8} {text other : List Char}
    (h : IsLossyText octets text) (h' : IsLossyText octets other) : text = other := by
  induction h generalizing other with
  | nil =>
    generalize he : ([] : List UInt8) = octets at h'
    cases h' with
    | nil => rfl
    | character c => exact absurd (List.append_eq_nil_iff.mp he.symm).1 (reads_encodeChar c).ne_nil
    | replaced hpart => exact absurd (List.append_eq_nil_iff.mp he.symm).1 hpart.ne_nil
  | @character c rest text _ ih =>
    generalize he : String.utf8EncodeChar c ++ rest = octets at h'
    cases h' with
    | nil => exact absurd (List.append_eq_nil_iff.mp he).1 (reads_encodeChar c).ne_nil
    | character c' h' =>
      obtain ⟨rfl, rfl⟩ := encodeChar_append_inj he
      rw [ih h']
    | replaced hpart => exact absurd ⟨rest, he⟩ (hpart.no_character c)
  | @replaced part rest text hpart _ ih =>
    generalize he : part ++ rest = octets at h'
    cases h' with
    | nil => exact absurd (List.append_eq_nil_iff.mp he).1 hpart.ne_nil
    | character c' => exact absurd ⟨_, he.symm⟩ (hpart.no_character c')
    | replaced hpart' h' =>
      obtain ⟨-, rfl⟩ := hpart.unique hpart' he
      rw [ih h']

/-- The lossy reader gives the lossy text of octets. -/
theorem isLossyText_iff {octets : List UInt8} {text : List Char} :
    IsLossyText octets text ↔ text = decodeLossy octets := by
  have hread : IsLossyText octets (decodeLossy octets) := Begun.nil.isLossyText octets
  exact ⟨fun h => h.unique hread, fun h => h ▸ hread⟩

/-! ### Reading well-formed octets -/

/-- What is read of well-formed octets is written with these octets, those that the reader has taken
up included. -/
theorem Begun.encode_of_decodeAt {octets rest : List UInt8} {state : State} {text : List Char}
    {index : Nat} (h : Begun octets state) (hread : decodeAt state index rest = .ok text) :
    encode text = octets ++ rest := by
  induction rest generalizing octets state text index with
  | nil =>
    cases state with
    | between =>
      obtain rfl := Except.ok.inj hread
      rw [h.eq_nil]
      rfl
    | inside => cases hread
  | cons b rest ih =>
    cases hstep : state.step b with
    | character c =>
      simp only [decodeAt, hstep] at hread
      cases hmore : decodeAt .between (index + state.seen + 1) rest with
      | error reason =>
        rw [hmore] at hread
        cases hread
      | ok more =>
        rw [hmore] at hread
        obtain rfl := Except.ok.inj hread
        rw [encode_cons, ih .nil hmore, ← h.eq_encodeChar hstep, List.nil_append,
          List.append_assoc, List.singleton_append]
    | more next =>
      simp only [decodeAt, hstep] at hread
      rw [ih (h.more hstep) hread, List.append_assoc, List.singleton_append]
    | misplaced =>
      simp only [decodeAt, hstep] at hread
      cases hread

/-- The strict reader gives a text exactly for the octets that it is written with. -/
theorem decode_eq_ok_iff {octets : List UInt8} {text : List Char} :
    decode octets = .ok text ↔ octets = encode text := by
  constructor
  · intro h
    exact (Begun.nil.encode_of_decodeAt h).symm
  · rintro rfl
    exact decode_encode text

end Webrev.Utf8
