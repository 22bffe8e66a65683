import Webrev.Proofs.Text.Numeral
import Webrev.Proofs.Url.PathEnding

/-!
# How the authorities of URLs end

A URL of another scheme than the special ones may end with its authority: with the host as it is
written in the text, or with the number of the port. An empty port number is left out, and its colon
with it. What follows an authority begins with a slash or with the end of a path, so that nothing of
the authority counts for the end of the URL then.

## Main definitions

* `Url.ReadAs` : how an authority is read.

## Main results

* `Url.splitUserinfo_append`, `Url.splitHost_append`, `Url.readPort_cases` : an authority in parts.
* `Url.readPort_ending` : the end of a port number that nothing follows.
* `Url.readAuthority_ending` : the end of an authority that nothing follows.
* `Url.exists_of_readAuthority` : what follows an authority.
-/

namespace Webrev.Url

/-! ### Parts of an authority -/

theorem isNameChar_of_isAnySlash {c : Char} (h : isAnySlash c = true) : isNameChar c = false := by
  simp only [isAnySlash, Bool.or_eq_true, beq_iff_eq] at h
  rcases h with rfl | rfl <;> decide

/-- What follows the last at-sign of an authority is the end of the text. -/
theorem splitUserinfo_append (kind : Scheme) (text : List Char) :
    ∃ before, text = before ++ (splitUserinfo kind text).2 ∧
      (before = [] ∨ ∃ user, before = user ++ ['@']) := by
  unfold splitUserinfo
  have hcut := List.takeWhile_append_dropWhile (p := fun c => !endsAuthority kind c) (l := text)
  dsimp only
  generalize text.takeWhile (fun c => !endsAuthority kind c) = authority at hcut ⊢
  split
  next hmem =>
    rcases Scan.dropWhile_cases (fun c => decide (c ≠ '@')) authority.reverse with
      ⟨-, hall⟩ | ⟨mark, user, -, hmark, hrev⟩
    · have hno := List.takeWhile_eq_self_iff.mp hall '@' (by simpa using hmem)
      simp at hno
    · obtain rfl : mark = '@' := by simpa using hmark
      generalize authority.reverse.takeWhile (fun c => decide (c ≠ '@')) = host at hrev ⊢
      obtain rfl : authority = user.reverse ++ '@' :: host.reverse := by
        rw [← List.reverse_reverse authority, hrev]
        simp
      have hlength : (user.reverse ++ '@' :: host.reverse).length - host.length - 1 + 1 =
          (user.reverse ++ ['@']).length := by
        simp
        omega
      refine ⟨user.reverse ++ ['@'], ?_, .inr ⟨_, rfl⟩⟩
      rw [hlength, ← hcut, List.append_cons, List.append_assoc (user.reverse ++ ['@']),
        List.drop_left]
  · exact ⟨[], rfl, .inl rfl⟩

/-- A host and what follows it are the text; what follows begins with a colon or an end. -/
theorem splitHost_append (kind : Scheme) (inBrackets : Bool) (text : List Char) :
    (splitHost kind inBrackets text).1 ++ (splitHost kind inBrackets text).2 = text ∧
      ∀ c ∈ (splitHost kind inBrackets text).2.head?,
        c = ':' ∨ kind.isSlash c = true ∨ isPathEnd c = true := by
  induction text generalizing inBrackets with
  | nil => exact ⟨rfl, by simp [splitHost]⟩
  | cons c text ih =>
    rw [splitHost]
    split
    next hend =>
      refine ⟨rfl, ?_⟩
      rintro d ⟨⟩
      simp only [Bool.or_eq_true, Bool.and_eq_true, beq_iff_eq] at hend
      tauto
    · obtain ⟨happend, hhead⟩ :=
        ih (if c = '[' then true else if c = ']' then false else inBrackets)
      exact ⟨congrArg (c :: ·) happend, hhead⟩

/-- A port number that is not left out stands before what follows the host. -/
theorem readPort_cases {scheme text rest : List Char} {portNumber : Option Nat}
    (h : readPort scheme text = .ok (portNumber, rest)) :
    (portNumber = none ∧ rest = text ∧ text.head? ≠ some ':') ∨
      ∃ digits, text = ':' :: (digits ++ rest) ∧ (∀ d ∈ digits, Numeral.isDigit 10 d = true) ∧
        (∀ c ∈ rest.head?, isAnySlash c = true ∨ isPathEnd c = true) ∧
        (portNumber = none ∧ (digits = [] ∨ (usualPort scheme).isSome = true) ∨
          portNumber.isSome = true ∧ digits ≠ []) := by
  unfold readPort at h
  split at h
  next text =>
    have hcut := List.takeWhile_append_dropWhile (p := Numeral.isDigit 10) (l := text)
    have hdigits : ∀ d ∈ text.takeWhile (Numeral.isDigit 10), Numeral.isDigit 10 d = true :=
      fun d hd => List.mem_takeWhile_imp hd
    dsimp only at h
    split at h
    · cases h
    next hgood =>
      have hrest : ∀ c ∈ (text.dropWhile (Numeral.isDigit 10)).head?,
          isAnySlash c = true ∨ isPathEnd c = true := by
        intro c hc
        by_contra hno
        refine hgood ?_
        rw [Option.mem_def.mp hc, Option.any_some]
        simp_all
      split at h
      next husual =>
        obtain ⟨rfl, rfl⟩ := Prod.mk.inj (Except.ok.inj h)
        refine .inr ⟨_, congrArg _ hcut.symm, hdigits, hrest, .inl ⟨rfl, ?_⟩⟩
        rw [Bool.or_eq_true, List.isEmpty_iff, beq_iff_eq] at husual
        exact husual.imp_right fun heq => by rw [← heq]; rfl
      next hunusual =>
        obtain ⟨rfl, rfl⟩ := Prod.mk.inj (Except.ok.inj h)
        refine .inr ⟨_, congrArg _ hcut.symm, hdigits, hrest, .inr ⟨rfl, ?_⟩⟩
        intro hnil
        exact hunusual (by rw [hnil]; rfl)
  next hcolon =>
    obtain ⟨rfl, rfl⟩ := Prod.mk.inj (Except.ok.inj h)
    refine .inl ⟨rfl, rfl, fun hhead => ?_⟩
    obtain ⟨rest, rfl⟩ := List.head?_eq_some_iff.mp hhead
    exact hcolon rest rfl

/-- How an authority is read: its host is read from one text, the number of its port from what comes
after that, and who asks from what stands before an at-sign. A host without a name has neither a port
number nor a user. -/
structure ReadAs (scheme text rest : List Char) (authority : Authority)
    (hostText after : List Char) : Prop where
  split : splitHost (Scheme.of scheme) false (splitUserinfo (Scheme.of scheme) text).2 =
    (hostText, after)
  host : (if (Scheme.of scheme).isSpecial then readHost hostText else readPlainHost hostText) =
    .ok authority.host
  portNumber : readPort scheme after = .ok (authority.portNumber, rest)
  named : authority.host = .domain "" →
    after.head? ≠ some ':' ∧ authority.username = "" ∧ authority.password = ""
  user : (authority.username, authority.password) =
    readUserinfo ((splitUserinfo (Scheme.of scheme) text).1.getD [])

theorem readAuthority_readAs {scheme text rest : List Char} {authority : Authority}
    (h : readAuthority scheme text = .ok (authority, rest)) :
    ∃ hostText after, ReadAs scheme text rest authority hostText after := by
  unfold readAuthority at h
  simp only [bind, Except.bind, pure, Except.pure, throw, throwThe, MonadExceptOf.throw] at h
  split at h
  · cases h
  split at h
  · cases h
  -- The host is read in one of two ways, and everything after it in the same way.
  split at h
  all_goals
    next hkind =>
    split at h
    · cases h
    next host hhost =>
    split at h
    · cases h
    next hcolon =>
    split at h
    · cases h
    next hport =>
    split at h
    · cases h
    next huser =>
    obtain ⟨rfl, rfl⟩ := Prod.mk.inj (Except.ok.inj h)
    refine ⟨_, _, rfl, ?_, hport, fun hempty => ⟨fun hhead => hcolon ⟨hempty, hhead⟩, ?_⟩, rfl⟩
    · simp only [hkind, if_true, if_false, hhost, Bool.false_eq_true]
    · by_contra hno
      exact huser ⟨hempty, by tauto⟩

/-- The host of a URL of another scheme ends like the text that it is read from. -/
theorem readPlainHost_ending {text : List Char} {host : Host} (h : readPlainHost text = .ok host) :
    text = [] ∧ host = .domain "" ∨ text ≠ [] ∧ EndAlike text host.text.toList := by
  unfold readPlainHost at h
  split at h
  · unfold readBracketed at h
    split at h
    next hlast =>
      obtain ⟨front, rfl⟩ := List.getLast?_eq_some_iff.mp hlast
      split at h
      · obtain rfl := Except.ok.inj h
        refine .inr ⟨by simp, ?_, by simp⟩
        rw [nameEnd_append_of_mark (by decide)]
        simp only [Host.text, String.toList_append]
        exact nameEnd_append_of_mark (by decide) _
      · cases h
    · cases h
  split at h
  · cases h
  · obtain rfl := Except.ok.inj h
    cases text with
    | nil => exact .inl ⟨rfl, rfl⟩
    | cons c text =>
      refine .inr ⟨List.cons_ne_nil c text, ?_⟩
      simp only [Host.text, String.toList_ofList]
      exact endAlike_encode (by decide) _

theorem usualPort_of_other {scheme : List Char} (h : Scheme.of scheme = .other) :
    usualPort scheme = none := by
  unfold Scheme.of at h
  unfold usualPort
  split at h
  · cases h
  split at h
  · cases h
  next hno =>
    simp_all

theorem isNameChar_of_isDigit {c : Char} (h : c.isDigit = true) :
    isNameChar c = false ∧ c ≠ ':' := by
  simp only [Char.isDigit, Bool.and_eq_true, decide_eq_true_eq] at h
  have hlow : 48 ≤ c.toNat := h.1
  have hhigh : c.toNat ≤ 57 := h.2
  constructor
  · rw [← Bool.not_eq_true, isNameChar_iff]
    rintro (⟨hlower, -⟩ | rfl)
    · omega
    · revert hlow
      decide
  · rintro rfl
    revert hhigh
    decide

/-- Two texts that end in digits end alike. -/
theorem endAlike_of_digits (front front' : List Char) {text text' : List Char} (hne : text ≠ [])
    (hne' : text' ≠ []) (h : ∀ c ∈ text, c.isDigit = true) (h' : ∀ c ∈ text', c.isDigit = true) :
    EndAlike (front ++ text) (front' ++ text') := by
  obtain ⟨text, c, rfl⟩ := (List.eq_nil_or_concat' _).resolve_left hne
  obtain ⟨text', c', rfl⟩ := (List.eq_nil_or_concat' _).resolve_left hne'
  have hc := isNameChar_of_isDigit (h c (by simp))
  have hc' := isNameChar_of_isDigit (h' c' (by simp))
  refine ⟨?_, fun hlast => absurd hlast (by simp [hc.2])⟩
  rw [← List.append_assoc, ← List.append_assoc, nameEnd_append_of_mark hc.1,
    nameEnd_append_of_mark hc'.1]

/-- A port number as it is written after a host. -/
def portText : Option Nat → List Char
  | some number => ':' :: Numeral.decimal number
  | none => []

/-- An authority is written with a mark in front of its host. -/
theorem exists_authority_eq (authority : Authority) (front : List Char) :
    ∃ before mark, isNameChar mark = false ∧ front ++ '/' :: authority.text.toList =
      before ++ mark :: (authority.host.text.toList ++ portText authority.portNumber) := by
  have htext : authority.text.toList = authority.userinfo.toList ++
      (authority.host.text.toList ++ portText authority.portNumber) := by
    unfold Authority.text
    cases authority.portNumber <;> simp [portText]
  rw [htext, Authority.userinfo]
  split
  · exact ⟨front, '/', by decide, by simp⟩
  · exact ⟨front ++ '/' :: (authority.username ++ if authority.password.isEmpty then ""
      else ":" ++ authority.password).toList, '@', by decide, by simp⟩

/-- A port number at the end is written so that the text ends as before, or its colon is left
out. -/
theorem readPort_ending {scheme after : List Char} {portNumber : Option Nat}
    (hkind : Scheme.of scheme = .other) (h : readPort scheme after = .ok (portNumber, []))
    {text written : List Char} (halike : EndAlike text written) :
    Ending (text ++ after) (written ++ portText portNumber) := by
  rcases readPort_cases h with ⟨rfl, rfl, -⟩ | ⟨digits, rfl, hdigits, -, hnumber⟩
  · rw [portText, List.append_nil, List.append_nil]
    exact .alike halike
  rcases hnumber with ⟨rfl, hdefault⟩ | ⟨hsome, hnonempty⟩
  · -- Another scheme has no usual port number, so the number that is left out is empty.
    obtain rfl := hdefault.resolve_right (by simp [usualPort_of_other hkind])
    rw [portText, List.append_nil, List.append_nil]
    exact .port text rfl halike.name
  · obtain ⟨number, rfl⟩ := Option.isSome_iff_exists.mp hsome
    rw [portText, List.append_nil]
    have hend := endAlike_of_digits (text ++ [':']) (written ++ [':']) hnonempty
      (Nat.toDigits_ne_nil (n := number) (b := 10))
      (fun d hd => Numeral.isDigit_ten_iff.mp (hdigits d hd))
      fun d hd => Nat.isDigit_of_mem_toDigits (by decide) (by decide) hd
    refine .alike ?_
    simpa [Numeral.decimal] using hend

/-- The end of an authority of another scheme that nothing follows. -/
theorem readAuthority_ending {scheme text front : List Char} {mark : Char} {authority : Authority}
    (hkind : Scheme.of scheme = .other) (hmark : isNameChar mark = false)
    (h : readAuthority scheme text = .ok (authority, [])) (written : List Char) :
    Ending (front ++ mark :: text) (written ++ '/' :: authority.text.toList) := by
  obtain ⟨hostText, after, hsplit, hhost, hport, hnamed⟩ := readAuthority_readAs h
  obtain ⟨before, hbefore, hat⟩ := splitUserinfo_append (Scheme.of scheme) text
  have happend := (splitHost_append (Scheme.of scheme) false
    (splitUserinfo (Scheme.of scheme) text).2).1
  rw [hsplit] at happend
  -- A mark stands in front of the host in both texts.
  obtain ⟨front', mark', hmark', htext⟩ : ∃ front' mark', isNameChar mark' = false ∧
      front ++ mark :: text = front' ++ mark' :: (hostText ++ after) := by
    rw [hbefore, ← happend]
    rcases hat with rfl | ⟨user, rfl⟩
    · exact ⟨front, mark, hmark, by simp⟩
    · exact ⟨front ++ mark :: user, '@', by decide, by simp⟩
  obtain ⟨front'', mark'', hmark'', hwritten⟩ := exists_authority_eq authority written
  rw [hkind, if_neg (by decide)] at hhost
  rcases readPlainHost_ending hhost with ⟨rfl, hempty⟩ | ⟨hne, halike⟩
  · obtain ⟨hcolon, husername, hpassword⟩ := hnamed hempty
    rcases readPort_cases hport with ⟨hnone, -, -⟩ | ⟨digits, rfl, -⟩
    · refine .closed (.inl ?_)
      simp [Authority.text, Authority.userinfo, husername, hpassword, hempty, hnone, Host.text]
    · exact absurd rfl hcolon
  have hwhole : EndAlike (front' ++ mark' :: hostText)
      (front'' ++ mark'' :: authority.host.text.toList) :=
    ((endAlike_of_mark hmark' front' hne).trans halike).trans (endAlike_append_mark hmark'' ..)
  have hending := readPort_ending hkind hport hwhole
  rwa [List.append_assoc, List.cons_append, ← htext, List.append_assoc, List.cons_append,
    ← hwritten] at hending

/-- What follows an authority is the end of the text, and begins with a slash or an end. -/
theorem exists_of_readAuthority {scheme text rest : List Char} {authority : Authority}
    (h : readAuthority scheme text = .ok (authority, rest)) :
    (∃ before, text = before ++ rest) ∧
      ∀ c ∈ rest.head?, isAnySlash c = true ∨ isPathEnd c = true := by
  obtain ⟨hostText, after, hsplit, -, hport, -⟩ := readAuthority_readAs h
  obtain ⟨before, hbefore, -⟩ := splitUserinfo_append (Scheme.of scheme) text
  obtain ⟨happend, hhead⟩ := splitHost_append (Scheme.of scheme) false
    (splitUserinfo (Scheme.of scheme) text).2
  rw [hsplit] at happend hhead
  rw [hbefore, ← happend]
  rcases readPort_cases hport with ⟨-, rfl, hcolon⟩ | ⟨digits, rfl, -, hrest, -⟩
  · refine ⟨⟨before ++ hostText, by simp⟩, fun c hc => ?_⟩
    rcases hhead c hc with rfl | hslash | hend
    · exact absurd hc hcolon
    · refine .inl ?_
      simp only [Scheme.isSlash, Bool.or_eq_true, Bool.and_eq_true, beq_iff_eq] at hslash
      simp only [isAnySlash, Bool.or_eq_true, beq_iff_eq]
      tauto
    · exact .inr hend
  · exact ⟨⟨before ++ hostText ++ ':' :: digits, by simp⟩, hrest⟩

end Webrev.Url
