import Webrev.Proofs.Url.Ending
import Webrev.Proofs.Url.HostName
import Webrev.Proofs.Url.PathCharacters

/-!
# Characters of URLs

Reading a URL brings few characters in. A part keeps characters of the text, or of the base, and
writes the others by number; what is put between the parts is a handful of marks. Only a domain name
is rewritten as a whole, so that it may hold any character of names in ASCII, whatever the text
holds.

## Main definitions

* `Url.Within` : the characters of a URL have a property, domain names apart.
* `Url.IsRead` : a URL that was read, on its own or relative to one that was.

## Main results

* `Url.read_within` : the characters of a URL that is read.
* `Url.Within.text` : the characters of its written form.
* `Url.IsRead.printable` : the written form is printable ASCII.
-/

namespace Webrev.Url

variable {P : Char → Prop}

/-- The marks that a URL is written with, whatever it is read from. -/
def marks : List Char := "%/:.?#@[]+-".toList

theorem Admits.path (hP : Admits P marks) : Admits P pathMarks := hP.mono (by decide)

/-! ### URLs -/

/-- The characters of an authority have a property, or are those of a host name in ASCII. -/
structure Authority.Within (P : Char → Prop) (authority : Authority) : Prop where
  username : ∀ c ∈ authority.username.toList, P c
  password : ∀ c ∈ authority.password.toList, P c
  host : ∀ c ∈ authority.host.text.toList, P c ∨ Idna.isNameChar c = true

/-- The characters of a URL have a property, domain names apart. -/
structure Within (P : Char → Prop) (url : Url) : Prop where
  scheme : ∀ c ∈ url.scheme.toList, P c
  authority : ∀ authority ∈ url.authority, authority.Within P
  path : ∀ c ∈ url.path.toList, P c
  query : ∀ query ∈ url.query, ∀ c ∈ query.toList, P c
  fragment : ∀ fragment ∈ url.fragment, ∀ c ∈ fragment.toList, P c

theorem pathText_subset (text : List Char) : pathText text ⊆ text :=
  (List.takeWhile_prefix _).subset

theorem afterPath_subset (text : List Char) : afterPath text ⊆ text :=
  (List.dropWhile_suffix _).subset

theorem forall_mem_readFragment (hP : Admits P pathMarks) {text : List Char} (h : Offers P text) :
    ∀ c ∈ (readFragment text).toList, P c := by
  rw [readFragment, String.toList_ofList]
  exact h.encode hP _

/-- The characters of a query and a fragment. -/
theorem forall_mem_readTail (hP : Admits P pathMarks) (kind : Scheme) {text : List Char}
    (h : Offers P text) :
    (∀ query ∈ (readTail kind text).1, ∀ c ∈ query.toList, P c) ∧
      ∀ fragment ∈ (readTail kind text).2, ∀ c ∈ fragment.toList, P c := by
  have hnone : ∀ part ∈ (none : Option String), ∀ c ∈ part.toList, P c := by
    rintro part ⟨⟩
  unfold readTail
  split
  next rest =>
    have hrest : Offers P rest := h.subset (List.subset_cons_self _ _)
    constructor
    · rintro query ⟨⟩
      rw [String.toList_ofList]
      exact (hrest.subset (List.takeWhile_prefix _).subset).encode hP _
    · dsimp only
      split
      · rintro fragment ⟨⟩
      next _ fragment hdrop =>
        rintro fragment' ⟨⟩
        refine forall_mem_readFragment hP (hrest.subset ?_)
        exact List.Subset.trans (List.subset_cons_self _ _)
          (hdrop ▸ (List.dropWhile_suffix _).subset)
  next rest =>
    refine ⟨hnone, ?_⟩
    rintro fragment ⟨⟩
    exact forall_mem_readFragment hP (h.subset (List.subset_cons_self _ _))
  · exact ⟨hnone, hnone⟩

variable {url base : Url}

theorem Within.withTail (hP : Admits P pathMarks) (h : url.Within P) {text : List Char}
    (htext : Offers P text) : (url.withTail text).Within P where
  scheme := h.scheme
  authority := h.authority
  path := h.path
  query := (forall_mem_readTail hP _ htext).1
  fragment := (forall_mem_readTail hP _ htext).2

theorem Within.withFragment (hP : Admits P pathMarks) (h : url.Within P) {text : List Char}
    (htext : Offers P text) : (url.withFragment text).Within P where
  scheme := h.scheme
  authority := h.authority
  path := h.path
  query := h.query
  fragment := by
    rintro fragment ⟨⟩
    exact forall_mem_readFragment hP htext

theorem Within.withoutFragment (h : url.Within P) : Within P { url with fragment := none } where
  scheme := h.scheme
  authority := h.authority
  path := h.path
  query := h.query
  fragment := nofun

theorem withPath_within (hP : Admits P pathMarks) {scheme path text : List Char}
    {authority : Option Authority} (hscheme : ∀ c ∈ scheme, P c)
    (hauthority : ∀ a ∈ authority, a.Within P) (hpath : ∀ c ∈ path, P c)
    (htext : Offers P text) : (withPath scheme authority path text).Within P := by
  refine Within.withTail hP ?_ (htext.subset (afterPath_subset text))
  refine ⟨?_, hauthority, ?_, nofun, nofun⟩
  · rwa [String.toList_ofList]
  · rw [String.toList_ofList]
    exact forall_mem_readPath hP true hpath
      fun c hc _ hkept => htext c (pathText_subset text hc) (keeps_nil hkept)

/-! ### Authorities -/

theorem forall_mem_bracketed (hP : Admits P marks) (pieces : List Nat) :
    ∀ c ∈ (Host.ipv6 pieces).text.toList, P c := by
  have hcolon : P ':' := hP.mark ':' (by decide)
  have hjoined (pieces : List Nat) : ∀ c ∈ Ipv6.joined pieces, P c := by
    intro c hc
    rcases Scan.mem_of_mem_intercalate hc with hcolons | ⟨piece, hpiece, hc⟩
    · obtain rfl := List.mem_singleton.mp hcolons
      exact hcolon
    · obtain ⟨n, -, rfl⟩ := List.mem_map.mp hpiece
      exact hP.alphanum (Numeral.isAlphanum_of_mem_hexadecimal hc)
  have htext : ∀ c ∈ Ipv6.text pieces, P c := by
    simp only [Ipv6.text]
    split
    · exact hjoined pieces
    · simp only [List.forall_mem_append, List.forall_mem_cons]
      exact ⟨⟨hjoined _, hcolon, hcolon, List.forall_mem_nil _⟩, hjoined _⟩
  have hopen : P '[' := hP.mark '[' (by decide)
  have hclose : P ']' := hP.mark ']' (by decide)
  simpa [Host.text, or_imp, forall_and, hopen, hclose] using htext

theorem forall_mem_dotted (hP : Admits P marks) (address : Nat) :
    ∀ c ∈ (Host.ipv4 address).text.toList, P c := by
  have hstop : P '.' := hP.mark '.' (by decide)
  have hdecimal (n : Nat) : ∀ c ∈ Numeral.decimal n, P c := fun c hc =>
    hP.alphanum (by rw [Char.isAlphanum, Numeral.isDigit_of_mem_decimal hc, Bool.or_true])
  simp only [Host.text, String.toList_ofList, Ipv4.text, List.forall_mem_append,
    List.forall_mem_cons]
  exact ⟨⟨⟨hdecimal _, hstop, hdecimal _⟩, hstop, hdecimal _⟩, hstop, hdecimal _⟩

/-- The characters of the host of a special scheme. -/
theorem readHost_within (hP : Admits P marks) {text : List Char} {host : Host}
    (h : readHost text = .ok host) : ∀ c ∈ host.text.toList, P c ∨ Idna.isNameChar c = true := by
  unfold readHost readBracketed at h
  split at h
  next =>
    split at h
    · split at h
      · obtain rfl := Except.ok.inj h
        exact fun c hc => .inl (forall_mem_bracketed hP _ c hc)
      · cases h
    · cases h
  next =>
    split at h
    · cases h
    · cases h
    next name hname hascii =>
      split at h
      · split at h
        · obtain rfl := Except.ok.inj h
          exact fun c hc => .inl (forall_mem_dotted hP _ c hc)
        · cases h
      · obtain rfl := Except.ok.inj h
        rw [Host.text, String.toList_ofList]
        exact fun c hc => .inr (Idna.isNameChar_of_toAscii? hascii c hc)

/-- The characters of the host of another scheme. -/
theorem readPlainHost_within (hP : Admits P marks) {text : List Char} {host : Host}
    (htext : Offers P text) (h : readPlainHost text = .ok host) :
    ∀ c ∈ host.text.toList, P c := by
  unfold readPlainHost readBracketed at h
  split at h
  next =>
    split at h
    · split at h
      · obtain rfl := Except.ok.inj h
        exact forall_mem_bracketed hP _
      · cases h
    · cases h
  split at h
  · cases h
  · obtain rfl := Except.ok.inj h
    rw [Host.text, String.toList_ofList]
    exact htext.encode hP.path []

theorem splitUserinfo_subset (kind : Scheme) (text : List Char) :
    (splitUserinfo kind text).1.getD [] ⊆ text := by
  simp only [splitUserinfo]
  split
  · exact List.Subset.trans (List.take_subset _ _) (List.takeWhile_prefix _).subset
  · exact List.nil_subset text

theorem readAuthority_within (hP : Admits P marks) {scheme text rest : List Char}
    {authority : Authority} (htext : Offers P text)
    (h : readAuthority scheme text = .ok (authority, rest)) : authority.Within P := by
  obtain ⟨hostText, after, hread⟩ := readAuthority_readAs h
  have huser := htext.subset (splitUserinfo_subset (Scheme.of scheme) text)
  obtain ⟨husername, hpassword⟩ := Prod.mk.inj hread.user
  refine ⟨?_, ?_, ?_⟩
  · rw [husername, String.toList_ofList]
    exact (huser.subset (List.takeWhile_prefix _).subset).encode hP.path _
  · rw [hpassword, String.toList_ofList]
    exact (huser.subset
      (List.Subset.trans (List.drop_subset _ _) (List.dropWhile_suffix _).subset)).encode hP.path _
  · have hhost := hread.host
    split at hhost
    · exact readHost_within hP hhost
    · obtain ⟨before, hbefore, -⟩ := splitUserinfo_append (Scheme.of scheme) text
      have happend := (splitHost_append (Scheme.of scheme) false
        (splitUserinfo (Scheme.of scheme) text).2).1
      rw [hread.split] at happend
      have hsub : hostText ⊆ text := by
        rw [hbefore, ← happend]
        simp
      exact fun c hc => .inl (readPlainHost_within hP (htext.subset hsub) hhost c hc)

theorem forall_mem_pathStart (hslash : P '/') (kind : Scheme) (text : List Char) :
    ∀ c ∈ (pathStart kind text).1, P c := by
  have hone : ∀ c ∈ ['/'], P c := List.forall_mem_singleton.mpr hslash
  unfold pathStart
  repeat' split
  all_goals first | exact hone | exact List.forall_mem_nil _

theorem pathStart_subset (kind : Scheme) (text : List Char) : (pathStart kind text).2 ⊆ text := by
  unfold pathStart
  repeat' split
  all_goals first | exact List.Subset.refl _ | exact List.subset_cons_self _ _

theorem afterSlashes_within (hP : Admits P marks) {scheme text : List Char}
    (hscheme : ∀ c ∈ scheme, P c) (htext : Offers P text)
    (h : afterSlashes scheme text = .ok url) : url.Within P := by
  obtain ⟨authority, rest, hread, rfl⟩ := afterSlashes_eq_ok h
  obtain ⟨⟨before, rfl⟩, -⟩ := exists_of_readAuthority hread
  refine withPath_within hP.path hscheme ?_ (forall_mem_pathStart (hP.mark '/' (by decide)) _ _)
    (htext.subset (List.Subset.trans (pathStart_subset _ _) (List.subset_append_right _ _)))
  rintro a ⟨⟩
  exact readAuthority_within hP htext hread

/-- The characters of a URL of another scheme. -/
theorem readOther_within (hP : Admits P marks) {scheme text : List Char}
    (hscheme : ∀ c ∈ scheme, P c) (htext : Offers P text) (h : readOther scheme text = .ok url) :
    url.Within P := by
  unfold readOther at h
  split at h
  next rest =>
    exact afterSlashes_within hP hscheme (htext.subset fun c hc => by simp [hc]) h
  next rest _ =>
    obtain rfl := Except.ok.inj h
    exact withPath_within hP.path hscheme nofun
      (List.forall_mem_singleton.mpr (hP.mark '/' (by decide)))
      (htext.subset (List.subset_cons_self _ _))
  next =>
    obtain rfl := Except.ok.inj h
    refine Within.withTail hP.path ?_ (htext.subset (afterPath_subset text))
    refine ⟨?_, nofun, ?_, nofun, nofun⟩
    · rwa [String.toList_ofList]
    · rw [String.toList_ofList]
      exact (htext.subset (pathText_subset text)).encode hP.path []

/-! ### References -/

/-- The characters of a reference without a scheme. -/
theorem readRelative_within (hP : Admits P marks) {text : List Char} (hbase : base.Within P)
    (htext : Offers P text) (h : readRelative base text = .ok url) : url.Within P := by
  have hslash : ∀ c ∈ ['/'], P c := List.forall_mem_singleton.mpr (hP.mark '/' (by decide))
  unfold readRelative at h
  dsimp only at h
  split at h
  · obtain rfl := Except.ok.inj h
    exact hbase.withoutFragment
  · obtain rfl := Except.ok.inj h
    exact hbase.withTail hP.path htext
  · obtain rfl := Except.ok.inj h
    exact hbase.withFragment hP.path (htext.subset (List.subset_cons_self _ _))
  · exact afterSlashes_within hP hbase.scheme (htext.subset fun c hc => by simp [hc]) h
  next c rest _ _ _ =>
    split at h
    · split at h
      · exact afterSlashes_within hP hbase.scheme
          (htext.subset (List.dropWhile_suffix _).subset) h
      · obtain rfl := Except.ok.inj h
        exact withPath_within hP.path hbase.scheme hbase.authority hslash
          (htext.subset (List.subset_cons_self _ _))
    · obtain rfl := Except.ok.inj h
      refine withPath_within hP.path hbase.scheme hbase.authority ?_ htext
      split
      · exact hslash
      · unfold pop
        split
        · exact hbase.path
        · exact fun c hc => hbase.path c (uptoSlash_subset _ hc)

/-! ### `file` URLs -/

theorem forall_mem_fileScheme (hP : Admits P marks) : ∀ c ∈ fileScheme, P c := by
  have hall : ∀ c ∈ fileScheme, c.isAlphanum = true := List.all_eq_true.mp (by decide)
  exact fun c hc => hP.alphanum (hall c hc)

theorem withoutHost_within (hP : Admits P marks) {path text : List Char}
    (hpath : ∀ c ∈ path, P c) (htext : Offers P text) : (withoutHost path text).Within P := by
  refine withPath_within hP.path (forall_mem_fileScheme hP) ?_ hpath htext
  rintro a ⟨⟩
  exact ⟨by simp, by simp, by simp [Host.text]⟩

theorem exists_of_readFileHost {text rest : List Char} {host : Host}
    (h : readFileHost text = .ok (some host, rest)) : ∃ name, readHost name = .ok host := by
  unfold readFileHost at h
  simp only [bind, Except.bind, pure, Except.pure] at h
  split at h
  · cases h
  split at h
  · cases h
  split at h
  · cases h
  next read hread =>
    obtain ⟨hhost, -⟩ := Prod.mk.inj (Except.ok.inj h)
    split at hhost
    · cases hhost
    · obtain rfl := Option.some.inj hhost
      exact ⟨_, hread⟩

theorem afterFileSlashes_within (hP : Admits P marks) {text : List Char} (htext : Offers P text)
    (h : afterFileSlashes text = .ok url) : url.Within P := by
  have hslash : P '/' := hP.mark '/' (by decide)
  unfold afterFileSlashes at h
  cases hread : readFileHost text with
  | error reason =>
    rw [hread] at h
    cases h
  | ok read =>
    obtain ⟨host, rest⟩ := read
    rw [hread] at h
    have hrest : Offers P rest := by
      rcases readFileHost_cases hread with ⟨-, rfl⟩ | ⟨⟨before, rfl⟩, -⟩
      · exact htext
      · exact htext.subset (List.subset_append_right _ _)
    cases host with
    | none =>
      obtain rfl := Except.ok.inj h
      exact withoutHost_within hP (List.forall_mem_singleton.mpr hslash) hrest
    | some host =>
      obtain ⟨name, hname⟩ := exists_of_readFileHost hread
      have hauthority : ∀ a ∈ some (Authority.mk "" "" host none), a.Within P := by
        rintro a ⟨⟩
        exact ⟨by simp, by simp, readHost_within hP hname⟩
      have hpath := forall_mem_pathStart hslash .file rest
      have hmore := hrest.subset (pathStart_subset .file rest)
      simp only [bind, Except.bind, pure, Except.pure] at h
      split at h
      · obtain rfl := Except.ok.inj h
        exact withPath_within hP.path (forall_mem_fileScheme hP) hauthority hpath hmore
      · obtain rfl := Except.ok.inj h
        exact withoutHost_within hP hpath hmore

theorem forall_mem_drive (hP : Admits P marks) {drive : List Char}
    (h : base.drive? = some drive) : ∀ c ∈ drive, P c := by
  have hdrive := (Option.filter_eq_some_iff.mp h).2
  unfold isPlainDrive at hdrive
  split at hdrive
  next c =>
    simp only [List.forall_mem_cons]
    exact ⟨hP.alphanum (isAlphanum_of_isAlpha hdrive), hP.mark ':' (by decide),
      List.forall_mem_nil _⟩
  · cases hdrive

theorem afterFileSlash_within (hP : Admits P marks) {base : Option Url}
    (hbase : ∀ b ∈ base, b.Within P) {rest : List Char} (hrest : Offers P rest) :
    (afterFileSlash base rest).Within P := by
  have hslash : P '/' := hP.mark '/' (by decide)
  have hmore : Offers P ('/' :: rest) := List.forall_mem_cons.mpr ⟨fun _ => hslash, hrest⟩
  unfold afterFileSlash
  split
  · exact withoutHost_within hP (List.forall_mem_nil _) hmore
  next b hb =>
    have hb' : b.Within P := by
      split at hb
      · cases hb
      · exact hbase b hb
    split
    next drive hdrive =>
      exact withoutHost_within hP (List.forall_mem_cons.mpr ⟨hslash, forall_mem_drive hP hdrive⟩)
        hmore
    · exact withPath_within hP.path (forall_mem_fileScheme hP) hb'.authority
        (List.forall_mem_nil _) hmore

/-- The characters of a `file` URL. -/
theorem readFile_within (hP : Admits P marks) {base : Option Url}
    (hbase : ∀ b ∈ base, b.Within P) {text : List Char} (htext : Offers P text)
    (h : readFile base text = .ok url) : url.Within P := by
  have hslash : ∀ c ∈ ['/'], P c := List.forall_mem_singleton.mpr (hP.mark '/' (by decide))
  unfold readFile at h
  split at h
  next c rest =>
    have hrest := htext.subset (List.subset_cons_self c rest)
    split at h
    · split at h
      · obtain rfl := Except.ok.inj h
        exact afterFileSlash_within hP hbase hrest
      next d after =>
        split at h
        · exact afterFileSlashes_within hP (hrest.subset (List.subset_cons_self d after)) h
        · obtain rfl := Except.ok.inj h
          exact afterFileSlash_within hP hbase hrest
    · split at h
      · obtain rfl := Except.ok.inj h
        exact withoutHost_within hP hslash htext
      next b =>
        split at h
        · obtain rfl := Except.ok.inj h
          exact withoutHost_within hP hslash htext
        · exact readRelative_within hP (hbase b rfl) htext h
  · split at h
    · obtain rfl := Except.ok.inj h
      exact withoutHost_within hP hslash htext
    next b =>
      obtain rfl := Except.ok.inj h
      exact (hbase b rfl).withoutFragment

/-! ### Any text -/

theorem clean_subset (text : List Char) : clean text ⊆ text := by
  intro c hc
  have hc := List.mem_reverse.mp (List.mem_filter.mp hc).1
  have hc := List.mem_reverse.mp ((List.dropWhile_suffix _).subset hc)
  exact (List.dropWhile_suffix _).subset hc

theorem isAlphanum_toLower {c : Char} (h : c.isAlphanum = true) : c.toLower.isAlphanum = true := by
  have hascii : c.toNat < 0x80 := by
    have hbound := toNat_of_isAlphanum h
    omega
  have hall : ∀ n < 0x80, (Char.ofNat n).isAlphanum = true →
      (Char.ofNat n).toLower.isAlphanum = true := by decide
  exact forall_of_ascii (P := fun c => c.isAlphanum = true → c.toLower.isAlphanum = true) hall
    hascii h

/-- The characters of a scheme. -/
theorem forall_mem_scheme (hP : Admits P marks) {text scheme rest : List Char}
    (h : splitScheme? text = some (scheme, rest)) : ∀ c ∈ scheme, P c := by
  unfold splitScheme? at h
  dsimp only at h
  split at h
  next =>
    split at h
    · obtain ⟨rfl, -⟩ := Prod.mk.inj (Option.some.inj h)
      intro c hc
      obtain ⟨d, hd, rfl⟩ := List.mem_map.mp hc
      have hmark := List.mem_takeWhile_imp hd
      simp only [isSchemeChar, Bool.or_eq_true, beq_iff_eq] at hmark
      rcases hmark with ((halphanum | rfl) | rfl) | rfl
      · exact hP.alphanum (isAlphanum_toLower halphanum)
      all_goals exact hP.mark _ (by decide)
    · cases h
  · cases h

/-- The characters of a URL are kept ones of the text and of the base, letters, digits and marks,
and those of a domain name. -/
theorem read_within (hP : Admits P marks) {base : Option Url} (hbase : ∀ b ∈ base, b.Within P)
    {text : String} (htext : Offers P text.toList) (h : read base text = .ok url) :
    url.Within P := by
  have hclean := htext.subset (clean_subset text.toList)
  unfold read at h
  dsimp only at h
  split at h
  next scheme rest hscheme =>
    have hs := forall_mem_scheme hP hscheme
    obtain ⟨front, hfront⟩ := exists_of_splitScheme?_eq_some hscheme
    have hrest : Offers P rest := hclean.subset (by simp [hfront])
    have hslashes := hrest.subset (List.dropWhile_suffix isAnySlash).subset
    have hsame : ∀ b ∈ base.filter fun b => b.scheme.toList = scheme, b.Within P := fun b hb =>
      hbase b (Option.filter_eq_some_iff.mp hb).1
    unfold readWithScheme at h
    dsimp only at h
    split at h
    · exact readFile_within hP hsame hrest h
    next b _ hb =>
      split at h
      · exact afterSlashes_within hP hs hslashes h
      · exact readRelative_within hP (hsame b hb) hrest h
    · exact afterSlashes_within hP hs hslashes h
    · exact readOther_within hP hs hrest h
  next =>
    unfold readWithoutScheme at h
    split at h
    · cases h
    next b =>
      have hb := hbase b rfl
      split at h
      next rest hrest =>
        obtain rfl := Except.ok.inj h
        exact hb.withFragment hP.path (hclean.subset (by simp [hrest]))
      split at h
      · cases h
      split at h
      · refine readFile_within hP ?_ hclean h
        rintro b' ⟨⟩
        exact hb
      · exact readRelative_within hP hb hclean h

theorem parse_within (hP : Admits P marks) {text : String} (htext : Offers P text.toList)
    (h : parse text = .ok url) : url.Within P := by
  have hbase : ∀ b ∈ (none : Option Url), b.Within P := nofun
  exact read_within hP hbase htext h

/-! ### Written forms -/

theorem Authority.Within.text (hP : Admits P marks) {authority : Authority}
    (h : authority.Within P) : ∀ c ∈ authority.text.toList,
      P c ∨ Idna.isNameChar c = true ∧ c ∈ authority.host.text.toList := by
  have hcolon : P ':' := hP.mark ':' (by decide)
  have hat : P '@' := hP.mark '@' (by decide)
  have huser : ∀ c ∈ authority.userinfo.toList, P c := by
    unfold Authority.userinfo
    split
    · exact List.forall_mem_nil _
    simp only [String.toList_append, List.forall_mem_append]
    refine ⟨⟨h.username, ?_⟩, List.forall_mem_singleton.mpr hat⟩
    split
    · exact List.forall_mem_nil _
    · rw [String.toList_append]
      exact List.forall_mem_cons.mpr ⟨hcolon, h.password⟩
  intro c hc
  simp only [Authority.text, String.toList_append, List.mem_append] at hc
  rcases hc with (hc | hc) | hc
  · exact .inl (huser c hc)
  · exact (h.host c hc).imp_right fun hname => ⟨hname, hc⟩
  · split at hc
    · rw [String.toList_append, List.mem_append] at hc
      rcases hc with hc | hc
      · obtain rfl := List.mem_singleton.mp hc
        exact .inl hcolon
      · rw [String.toList_ofList] at hc
        exact .inl (hP.alphanum
          (by rw [Char.isAlphanum, Numeral.isDigit_of_mem_decimal hc, Bool.or_true]))
    · exact absurd hc List.not_mem_nil

theorem exists_mem_hostText {authority : Authority} (h : url.authority = some authority)
    {c : Char} (hc : c ∈ authority.host.text.toList) : ∃ host ∈ url.hostText, c ∈ host.toList := by
  obtain ⟨username, password, host, portNumber⟩ := authority
  cases host with
  | domain name =>
    have hne : name.isEmpty = false := by
      rw [String.isEmpty_eq_false_iff]
      rintro rfl
      exact absurd hc List.not_mem_nil
    exact ⟨name, by simp [hostText, h, hne], hc⟩
  | ipv4 address => exact ⟨_, by simp only [hostText, h]; rfl, hc⟩
  | ipv6 pieces => exact ⟨_, by simp only [hostText, h]; rfl, hc⟩

/-- The host of a URL is in its written form. -/
theorem mem_text_of_mem_hostText {host : String} (h : host ∈ url.hostText) {c : Char}
    (hc : c ∈ host.toList) : c ∈ url.text.toList := by
  obtain ⟨authority, hauthority, rfl⟩ : ∃ authority, url.authority = some authority ∧
      authority.host.text = host := by
    unfold hostText at h
    split at h
    next heq =>
      split at h
      · cases h
      · exact ⟨_, heq, Option.some.inj h⟩
    next heq => exact ⟨_, ‹_›, Option.some.inj h⟩
    · cases h
  simp [toList_text, hierarchy, hauthority, Authority.text, hc]

/-- The characters of the written form of a URL. -/
theorem Within.text (hP : Admits P marks) (h : url.Within P) : ∀ c ∈ url.text.toList,
    P c ∨ Idna.isNameChar c = true ∧ ∃ host ∈ url.hostText, c ∈ host.toList := by
  have hhierarchy : ∀ c ∈ (hierarchy url.authority url.path).toList,
      P c ∨ Idna.isNameChar c = true ∧ ∃ host ∈ url.hostText, c ∈ host.toList := by
    have hslash : P '/' := hP.mark '/' (by decide)
    have hstop : P '.' := hP.mark '.' (by decide)
    intro c hc
    unfold hierarchy at hc
    split at hc
    next authority hauthority =>
      rw [String.toList_append, List.mem_append] at hc
      rcases hc with hc | hc
      · simp only [String.reduceToList, List.mem_cons, List.not_mem_nil, or_false, or_self] at hc
        exact .inl (hc ▸ hslash)
      · exact ((h.authority authority hauthority).text hP c hc).imp_right fun ⟨hname, hc⟩ =>
          ⟨hname, exists_mem_hostText hauthority hc⟩
    next =>
      split at hc
      · simp only [String.reduceToList, List.mem_cons, List.not_mem_nil, or_false] at hc
        rcases hc with rfl | rfl
        exacts [.inl hslash, .inl hstop]
      · exact absurd hc List.not_mem_nil
  have hmarked {mark : String} (hmark : mark.toList ⊆ marks) {part : Option String}
      (hpart : ∀ t ∈ part, ∀ c ∈ t.toList, P c) : ∀ c ∈ (marked mark part).toList, P c := by
    unfold marked
    split
    · rw [String.toList_append]
      exact List.forall_mem_append.mpr ⟨fun c hc => hP.mark c (hmark hc), hpart _ rfl⟩
    · exact List.forall_mem_nil _
  intro c hc
  simp only [toList_text, String.toList_append, List.mem_append] at hc
  rcases hc with ((((hc | hc) | hc) | hc) | hc) | hc
  · exact .inl (h.scheme c hc)
  · exact .inl (List.mem_singleton.mp hc ▸ hP.mark ':' (by decide))
  · exact hhierarchy c hc
  · exact .inl (h.path c hc)
  · exact .inl (hmarked (by decide) h.query c hc)
  · exact .inl (hmarked (by decide) h.fragment c hc)

/-! ### URLs that were read -/

/-- A URL that was read, on its own or relative to one that was. -/
inductive IsRead : Url → Prop
  | parse {text : String} {url : Url} (h : Url.parse text = .ok url) : IsRead url
  | join {base url : Url} {reference : String} (hbase : IsRead base)
      (h : base.join reference = .ok url) : IsRead url

theorem admits_keeps : Admits (Percent.keeps [] · = true) marks where
  alphanum h := by
    obtain ⟨hlow, hhigh⟩ := toNat_of_isAlphanum h
    simp [Percent.keeps, hhigh, Nat.le_of_lt hlow]
  mark := List.all_eq_true.mp (by decide)

theorem IsRead.within (h : url.IsRead) : url.Within (Percent.keeps [] · = true) := by
  induction h with
  | parse h => exact parse_within admits_keeps (fun _ _ => id) h
  | @join base _ _ _ h ih =>
    have hbase : ∀ b ∈ some base, Within (Percent.keeps [] · = true) b := by
      rintro b ⟨⟩
      exact ih
    exact read_within admits_keeps hbase (fun _ _ => id) h

/-- The written form of a URL that was read is printable ASCII. -/
theorem IsRead.printable (h : url.IsRead) :
    ∀ c ∈ url.text.toList, 0x20 ≤ c.toNat ∧ c.toNat < 0x7F := by
  intro c hc
  rcases h.within.text admits_keeps c hc with hkept | ⟨hname, -⟩
  · simp only [Percent.keeps, Bool.and_eq_true, decide_eq_true_eq] at hkept
    exact hkept.1
  · simp only [Idna.isNameChar, Idna.isForbidden, Bool.and_eq_true, decide_eq_true_eq,
      Bool.not_eq_true', Bool.or_eq_false_iff, decide_eq_false_iff_not,
      beq_eq_false_iff_ne] at hname
    omega

end Webrev.Url
