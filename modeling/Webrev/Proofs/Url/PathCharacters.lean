import Webrev.Url.Parse

/-!
# Characters of paths

A part of a URL keeps characters of a text and writes the others by number. A path keeps them
segment by segment: what it holds otherwise are slashes, and the colons of drive letters.

## Main definitions

* `Url.Admits` : a property of letters, digits and some marks.
* `Url.Offers` : what the parts of a URL may keep of a text has a property.

## Main results

* `Url.forall_of_ascii` : a property of ASCII characters is checked one by one.
* `Url.forall_mem_encode` : the characters of a text as it stands in a part.
* `Url.forall_mem_readPath` : the characters of a path.
-/

namespace Webrev.Url

/-! ### ASCII characters -/

/-- A property of ASCII characters is checked one by one. -/
theorem forall_of_ascii {P : Char → Prop} (h : ∀ n < 0x80, P (Char.ofNat n)) {c : Char}
    (hc : c.toNat < 0x80) : P c := by
  have hp := h c.toNat hc
  rwa [Char.ofNat_toNat] at hp

theorem toNat_of_isAlphanum {c : Char} (h : c.isAlphanum = true) :
    0x20 < c.toNat ∧ c.toNat < 0x7F := by
  have hbetween {low high : UInt32} (h : (decide (c.val ≥ low) && decide (c.val ≤ high)) = true) :
      low.toNat ≤ c.toNat ∧ c.toNat ≤ high.toNat := by
    rwa [Bool.and_eq_true, decide_eq_true_eq, decide_eq_true_eq] at h
  rcases Bool.or_eq_true_iff.mp h with hletter | hdigit
  · rcases Bool.or_eq_true_iff.mp hletter with hupper | hlower
    · have hle : 65 ≤ c.toNat ∧ c.toNat ≤ 90 := of_decide_eq_true hupper
      omega
    · have hle : 97 ≤ c.toNat ∧ c.toNat ≤ 122 := hbetween hlower
      omega
  · have hle : 48 ≤ c.toNat ∧ c.toNat ≤ 57 := hbetween hdigit
    omega

theorem isAlphanum_of_isAlpha {c : Char} (h : c.isAlpha = true) : c.isAlphanum = true := by
  rw [Char.isAlphanum, h, Bool.true_or]

/-! ### Properties of characters -/

/-- A property that the letters, the digits and some marks have. -/
structure Admits (P : Char → Prop) (marks : List Char) : Prop where
  alphanum : ∀ {c : Char}, c.isAlphanum = true → P c
  mark : ∀ c ∈ marks, P c

/-- The characters that the parts of a URL may keep of a text have a property. -/
def Offers (P : Char → Prop) (text : List Char) : Prop :=
  ∀ c ∈ text, Percent.keeps [] c = true → P c

/-- The marks that a path is written with, whatever it is read from. -/
def pathMarks : List Char := "%/:".toList

variable {P : Char → Prop}

theorem Admits.mono {marks marks' : List Char} (hP : Admits P marks) (h : marks' ⊆ marks) :
    Admits P marks' := ⟨hP.alphanum, fun c hc => hP.mark c (h hc)⟩

theorem Admits.percent (hP : Admits P pathMarks) : Admits P ['%'] := hP.mono (by decide)

theorem Offers.subset {text text' : List Char} (h : Offers P text) (hsub : text' ⊆ text) :
    Offers P text' := fun c hc => h c (hsub hc)

theorem keeps_nil {reserved : Percent.Reserved} {c : Char}
    (h : Percent.keeps reserved c = true) : Percent.keeps [] c = true := by
  rw [Percent.keeps, Bool.and_eq_true] at h
  rw [Percent.keeps, h.1]
  rfl

/-! ### Percent encoding -/

theorem forall_mem_encodeOctet (hP : Admits P ['%']) (b : UInt8) :
    ∀ c ∈ Percent.encodeOctet b, P c := by
  have hdigit : ∀ n < 16, (Numeral.upperHexDigit n).isAlphanum = true := by decide
  have hhigh : b.toNat / 16 < 16 := Nat.div_lt_of_lt_mul b.toNat_lt
  have hlow : b.toNat % 16 < 16 := Nat.mod_lt _ (by decide)
  simp only [Percent.encodeOctet, List.forall_mem_cons]
  exact ⟨hP.mark '%' (by decide), hP.alphanum (hdigit _ hhigh), hP.alphanum (hdigit _ hlow),
    List.forall_mem_nil _⟩

/-- A character stands in a part as it is or by number. -/
theorem forall_mem_encode (hP : Admits P ['%']) {reserved : Percent.Reserved}
    {text : List Char} (h : ∀ c ∈ text, Percent.keeps reserved c = true → P c) :
    ∀ c ∈ Percent.encode reserved text, P c := by
  intro c hc
  obtain ⟨d, hd, hc⟩ := List.mem_flatMap.mp hc
  rw [Percent.encodeChar] at hc
  split at hc
  next hkept =>
    obtain rfl := List.mem_singleton.mp hc
    exact h c hd hkept
  next =>
    obtain ⟨b, -, hc⟩ := List.mem_flatMap.mp hc
    exact forall_mem_encodeOctet hP b c hc

theorem Offers.encode (hP : Admits P pathMarks) {text : List Char} (h : Offers P text)
    (reserved : Percent.Reserved) : ∀ c ∈ Percent.encode reserved text, P c :=
  forall_mem_encode hP.percent fun c hc hkept => h c hc (keeps_nil hkept)

/-! ### Paths -/

theorem uptoSlash_subset (path : List Char) : uptoSlash path ⊆ path := fun _ hc =>
  List.mem_reverse.mp ((List.dropWhile_suffix _).subset (List.mem_reverse.mp hc))

theorem goUp_subset (kind : Scheme) (path : List Char) : goUp kind path ⊆ path := by
  have hpop (path : List Char) : pop kind path ⊆ path := by
    unfold pop
    split
    · exact List.Subset.refl path
    · exact uptoSlash_subset path
  have hdrop : dropSlash path ⊆ path := by
    rw [dropSlash]
    split
    · exact path.dropLast_subset
    · exact List.Subset.refl path
  unfold goUp
  split
  · exact List.Subset.trans (hpop _) hdrop
  · exact hpop path

theorem forall_mem_withSlash (hslash : P '/') {path : List Char} (h : ∀ c ∈ path, P c) :
    ∀ c ∈ withSlash path, P c := by
  unfold withSlash
  split
  · exact h
  · exact List.forall_mem_append.mpr ⟨h, List.forall_mem_singleton.mpr hslash⟩

theorem exists_of_isDrive {text : List Char} (h : isDrive text = true) :
    ∃ c mark, text = [c, mark] ∧ c.isAlpha = true := by
  unfold isDrive at h
  split at h
  next c mark => exact ⟨c, mark, rfl, (Bool.and_eq_true_iff.mp h).1⟩
  · cases h

/-- A segment brings the characters that a path keeps of it to the path. -/
theorem Trail.forall_mem_add (hP : Admits P pathMarks) (kind : Scheme) {trail : Trail}
    {segment : Segment} (hpath : ∀ c ∈ trail.path, P c)
    (hsegment : ∀ c ∈ segment.text, Percent.keeps .path c = true → P c) :
    ∀ c ∈ (trail.add kind segment).path, P c := by
  have hslash : P '/' := hP.mark '/' (by decide)
  have hopen : ∀ c ∈ openDrive kind trail.path segment.text, P c := by
    unfold openDrive
    split
    · exact List.forall_mem_append.mpr ⟨hpath, List.forall_mem_singleton.mpr hslash⟩
    · exact hpath
  have hclose {text : List Char} (h : ∀ c ∈ text, P c) :
      ∀ c ∈ (if segment.slash then text ++ ['/'] else text), P c := by
    split
    · exact List.forall_mem_append.mpr ⟨h, List.forall_mem_singleton.mpr hslash⟩
    · exact h
  simp only [Trail.add]
  split
  next =>
    have hup : ∀ c ∈ goUp kind (openDrive kind trail.path segment.text), P c :=
      fun c hc => hopen c (goUp_subset _ _ hc)
    dsimp only
    split
    · exact forall_mem_withSlash hslash hup
    · exact hup
  split
  next => exact forall_mem_withSlash hslash hopen
  split
  next hdrive =>
    obtain ⟨c, mark, htext, hc⟩ := exists_of_isDrive hdrive.2.2
    refine List.forall_mem_append.mpr ⟨hopen, hclose ?_⟩
    rw [htext]
    simp only [List.take_succ_cons, List.take_zero, List.cons_append, List.nil_append,
      List.forall_mem_cons]
    exact ⟨hP.alphanum (isAlphanum_of_isAlpha hc), hP.mark ':' (by decide), List.forall_mem_nil _⟩
  next => exact List.forall_mem_append.mpr ⟨hopen, hclose (forall_mem_encode hP.percent hsegment)⟩

/-- The segments of a path hold no slashes. -/
theorem mem_of_mem_segmentsFrom {kind : Scheme} {pending path : List Char} {segment : Segment}
    (h : segment ∈ segmentsFrom kind pending path) :
    ∀ c ∈ segment.text, c ∈ pending ∨ c ∈ path ∧ kind.isSlash c = false := by
  induction path generalizing pending with
  | nil =>
    obtain rfl := List.mem_singleton.mp h
    exact fun c hc => .inl (List.mem_reverse.mp hc)
  | cons d path ih =>
    rw [segmentsFrom] at h
    intro c hc
    split at h
    next =>
      rcases List.mem_cons.mp h with rfl | hmem
      · exact .inl (List.mem_reverse.mp hc)
      · obtain ⟨hpath, hno⟩ := (ih hmem c hc).resolve_left List.not_mem_nil
        exact .inr ⟨List.mem_cons_of_mem d hpath, hno⟩
    next hd =>
      rcases ih h c hc with hpending | ⟨hpath, hno⟩
      · rcases List.mem_cons.mp hpending with rfl | hpending
        · exact .inr ⟨List.mem_cons_self, Bool.eq_false_iff.mpr hd⟩
        · exact .inl hpending
      · exact .inr ⟨List.mem_cons_of_mem d hpath, hno⟩

/-- The characters of a path are kept ones of the text, or were there. -/
theorem forall_mem_readPath (hP : Admits P pathMarks) {kind : Scheme} {path text : List Char}
    (hasHost : Bool) (hpath : ∀ c ∈ path, P c)
    (htext : ∀ c ∈ text, kind.isSlash c = false → Percent.keeps .path c = true → P c) :
    ∀ c ∈ (readPath kind ⟨path, hasHost⟩ text).path, P c := by
  have hread : ∀ c ∈ ((segments kind text).foldl (Trail.add kind) ⟨path, hasHost⟩).path, P c := by
    refine List.foldlRecOn (motive := fun trail : Trail => ∀ c ∈ trail.path, P c) _ _ hpath ?_
    intro trail htrail segment hsegment
    refine Trail.forall_mem_add hP kind htrail fun c hc hkept => ?_
    obtain ⟨hmem, hno⟩ := (mem_of_mem_segmentsFrom hsegment c hc).resolve_left List.not_mem_nil
    exact htext c hmem hno hkept
  simp only [readPath, oneSlash]
  split
  · exact List.forall_mem_cons.mpr ⟨hP.mark '/' (by decide),
      fun c hc => hread c ((List.dropWhile_suffix _).subset hc)⟩
  · exact hread

end Webrev.Url
