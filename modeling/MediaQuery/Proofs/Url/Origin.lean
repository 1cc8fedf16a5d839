import MediaQuery.Proofs.Text.Run
import MediaQuery.Proofs.Url.Relative

/-!
# What passes for a stylesheet of the page

Whether a reference leads to the host of the page is decided from its first characters and, if these
name no host, from the base; where it leads is found by reading the base against the page and the
reference against what comes of it. `ReadsAlike` says when the two agree. They do not when a
reference names a host in a way that is not looked for, or a base does that is no URL by itself: the
answer is then always yes (`foreign_base_passes`).

* `same_origin_lies_on_the_page` — what passes lies on the host of the page
-/

namespace MediaQuery.Url

/-! ## Texts without what does not count -/

/-- The text of a URL behind characters that count, without what does not count in it. -/
def cleanRest (cs : List Char) : List Char :=
  ((cs.reverse.dropWhile fun c => decide (c.toNat ≤ 0x20)).reverse).filter
    fun c => !(c == '\t' || c == '\n' || c == '\r')

theorem cleanRest_cons {c : Char} (h : 0x20 < c.toNat) (cs : List Char) :
    cleanRest (c :: cs) = c :: cleanRest cs := by
  have hedge : decide (c.toNat ≤ 0x20) = false := by simpa using h
  have hkept : (!(c == '\t' || c == '\n' || c == '\r')) = true := by
    have hne (d : Char) (hd : d.toNat ≤ 0x20) : (c == d) = false := by
      rw [beq_eq_false_iff_ne]
      rintro rfl
      omega
    rw [hne '\t' (by decide), hne '\n' (by decide), hne '\r' (by decide)]
    rfl
  rw [cleanRest, trimEnd_cons hedge, List.filter_cons, if_pos hkept]
  rfl

theorem clean_cons {c : Char} (h : 0x20 < c.toNat) (cs : List Char) :
    clean (c :: cs) = c :: cleanRest cs := by
  have hedge : decide (c.toNat ≤ 0x20) = false := by simpa using h
  rw [← cleanRest_cons h]
  unfold clean cleanRest
  dsimp only
  rw [List.dropWhile_cons, if_neg (by simp [hedge])]

/-- With `http:` in front a text that begins with a slash is read as it is. -/
theorem clean_http (cs : List Char) :
    clean ("http:".toList ++ '/' :: cs) = "http:".toList ++ clean ('/' :: cs) := by
  have hhttp : "http:".toList = ['h', 't', 't', 'p', ':'] := rfl
  rw [hhttp]
  simp only [List.cons_append, List.nil_append]
  rw [clean_cons (by decide), clean_cons (by decide), cleanRest_cons (by decide),
    cleanRest_cons (by decide), cleanRest_cons (by decide), cleanRest_cons (by decide),
    cleanRest_cons (by decide)]

theorem clean_slashes (cs : List Char) :
    clean ('/' :: '/' :: cs) = '/' :: '/' :: cleanRest cs := by
  rw [clean_cons (by decide), cleanRest_cons (by decide)]

theorem splitScheme?_http (cs : List Char) :
    splitScheme? ("http:".toList ++ cs) = some (http, cs) := by
  have hhttp : "http:".toList = ['h', 't', 't', 'p', ':'] := rfl
  rw [hhttp]
  rfl

/-- What begins with a slash has no scheme. -/
theorem splitScheme?_slash (cs : List Char) : splitScheme? ('/' :: cs) = none := by
  rfl

/-! ## URLs of `http` -/

theorem isHttp_of_readLocated? {cs : List Char} {u : Url} (h : readLocated? http cs = some u) :
    u.IsHttp := by
  unfold readLocated? at h
  obtain ⟨⟨authority, rest⟩, -, hu⟩ := Option.bind_eq_some_iff.mp h
  obtain rfl := Option.some.inj hu
  exact ⟨rfl, rfl⟩

/-- By itself `http` is read as far as its authority, however many slashes there are. -/
theorem readAfterScheme?_http (cs : List Char) :
    readAfterScheme? none http cs = readLocated? http (cs.dropWhile isSlash) := rfl

theorem isHttp_of_http {cs : List Char} {u : Url}
    (h : read? ("http:".toList ++ '/' :: cs) = some u) : u.IsHttp := by
  unfold read? readAgainst? at h
  simp only [clean_http, splitScheme?_http] at h
  exact isHttp_of_readLocated? h

/-- A URL that stands by itself has a scheme. -/
theorem exists_scheme_of_read? {text : List Char} {u : Url} (h : read? text = some u) :
    ∃ scheme rest, splitScheme? (clean text) = some (scheme, rest) ∧
      readAfterScheme? none scheme rest = some u := by
  unfold read? readAgainst? at h
  dsimp only at h
  cases hsplit : splitScheme? (clean text) with
  | none =>
    rw [hsplit] at h
    exact absurd h (by simp)
  | some split =>
    rw [hsplit] at h
    exact ⟨split.1, split.2, rfl, h⟩

/-- A reference that would stay on the host of a page is no URL by itself, or one of `http`. -/
theorem isHttp_of_read? {text : List Char} {u : Url} (h : staysOnHost text = true)
    (hu : read? text = some u) : u.IsHttp := by
  obtain ⟨scheme, rest, hsplit, hread⟩ := exists_scheme_of_read? hu
  unfold staysOnHost at h
  rw [hsplit] at h
  obtain ⟨rfl, -⟩ : scheme = http ∧ slashes rest < 2 := by simpa using h
  exact isHttp_of_readLocated? hread

/-- Behind two slashes in front of a reference stands an authority, unless a third one follows. -/
theorem join?_of_two_slashes_in_front {b : Url} {cs : List Char} (hpath : b.path.isSome = true)
    (hfile : b.kind ≠ .file) :
    join? b ('/' :: '/' :: cs) = readLocated? b.scheme (cleanRest cs) := by
  unfold join? readAgainst?
  simp only [clean_slashes, splitScheme?_slash, Option.bind_some]
  rw [readWithoutScheme?_eq hpath hfile (by simp), readRelative?]

theorem read?_of_two_slashes_in_front {cs : List Char}
    (h : slashes (clean ('/' :: '/' :: cs)) = 2) :
    read? ("http:".toList ++ '/' :: '/' :: cs) = readLocated? http (cleanRest cs) := by
  have hrest : slashes (cleanRest cs) = 0 := by
    rw [clean_slashes, slashes_cons (by decide), slashes_cons (by decide)] at h
    omega
  have hdrop : ('/' :: '/' :: cleanRest cs).dropWhile isSlash = cleanRest cs := by
    have hnone : (cleanRest cs).takeWhile isSlash = [] := List.length_eq_zero_iff.mp hrest
    have happend := List.takeWhile_append_dropWhile (p := isSlash) (l := cleanRest cs)
    rw [hnone, List.nil_append] at happend
    exact happend
  unfold read? readAgainst?
  simp only [clean_http, clean_slashes, splitScheme?_http]
  rw [readAfterScheme?_http, hdrop]

/-- What has no scheme leads from a URL of `http` to another one. -/
theorem isHttp_of_join? {b u : Url} {text : List Char} (hb : b.IsHttp)
    (hscheme : splitScheme? (clean text) = none) (hu : join? b text = some u) : u.IsHttp := by
  by_cases hstays : staysOnHost text = true
  · exact isHttp_of_stays hb hstays hu
  · obtain ⟨rest, hrest⟩ := join?_of_two_le hscheme (two_le_slashes hscheme (by simpa using hstays))
    rw [hrest hb] at hu
    exact isHttp_of_readLocated? hu

/-- Against a URL an authority behind two slashes is read as it is in `http`. -/
structure ReadsLikeHttp (b : Url) (cs : List Char) : Prop where
  path : b.path.isSome = true
  kind_ne_file : b.kind ≠ .file
  authority : readAuthority? b.kind cs = readAuthority? (.web 80) cs

theorem IsHttp.readsLikeHttp {b : Url} (h : b.IsHttp) (cs : List Char) : b.ReadsLikeHttp cs :=
  ⟨h.path, h.kind_ne_file, by rw [h.kind]⟩

theorem liesOn_readLocated? {b : Url} {cs : List Char} (h : b.ReadsLikeHttp cs)
    (host : Option String) :
    liesOn (readLocated? b.scheme cs) host = liesOn (readLocated? http cs) host := by
  have hkind : SchemeKind.ofName http = .web 80 := rfl
  have hauthority : readAuthority? (SchemeKind.ofName b.scheme) cs =
      readAuthority? (.web 80) cs := h.authority
  unfold liesOn readLocated?
  dsimp only
  rw [hauthority, hkind]
  cases readAuthority? (.web 80) cs <;> rfl

/-! ## Pages -/

/-- The URL of a page on a host. -/
def page? (host : String) : Option Url :=
  read? ("http:".toList ++ '/' :: '/' :: (host.toList ++ ['/']))

/-- What the base of a page leads to, or the page itself without a base that leads anywhere. -/
def baseFor (page : Url) (base : Option String) : Url :=
  (base.bind fun b => join? page b.toList).getD page

/-- Where a reference leads from a page on a host, with the base that the page gives. -/
def resolve? (host : String) (base : Option String) (href : String) : Option Url :=
  (page? host).bind fun page => join? (baseFor page base) href.toList

/-- The base of a page, if it is a URL by itself. -/
def absolute? (base : Option String) : Option Url := base.bind fun b => read? b.toList

section

variable {page b : Url} {base : Option String}

/-- A base that is no URL by itself leads to a URL of `http`. -/
theorem isHttp_baseFor (hpage : page.IsHttp) (h : absolute? base = none) :
    (baseFor page base).IsHttp := by
  unfold baseFor
  cases hbase : base.bind fun b => join? page b.toList with
  | none => exact hpage
  | some u =>
    obtain ⟨b, rfl, hu⟩ := Option.bind_eq_some_iff.mp hbase
    have hread : read? b.toList = none := h
    cases hscheme : splitScheme? (clean b.toList) with
    | none => exact isHttp_of_join? hpage hscheme hu
    | some split =>
      -- with a scheme it stays on the host, or is read by itself, which it can not be
      by_cases hstays : staysOnHost b.toList = true
      · exact isHttp_of_stays hpage hstays hu
      · rw [join?_eq_read? hpage (by simp [hscheme]) (by simpa using hstays), hread] at hu
        exact absurd hu (by simp)

/-- It leads to the host of the page unless it has two slashes in front. -/
theorem authority_baseFor (hpage : page.IsHttp) (h : absolute? base = none)
    (hslashes : ∀ b, base = some b → slashes (clean b.toList) < 2) :
    (baseFor page base).authority = page.authority := by
  unfold baseFor
  cases base with
  | none => rfl
  | some b =>
    have hread : read? b.toList = none := h
    rw [Option.bind_some]
    by_cases hstays : staysOnHost b.toList = true
    · obtain ⟨u, hu, hauthority, -⟩ := join?_of_stays hpage hstays
      rw [hu]
      exact hauthority
    · have hscheme : splitScheme? (clean b.toList) ≠ none := fun hscheme => by
        have hle := two_le_slashes hscheme (by simpa using hstays)
        have hlt := hslashes b rfl
        omega
      rw [join?_eq_read? hpage hscheme (by simpa using hstays), hread]
      rfl

/-- A base that is a URL by itself leads there, or to the host of the page if it repeats the scheme
of the page. -/
theorem baseFor_of_absolute (hpage : page.IsHttp) (h : absolute? base = some b) :
    baseFor page base = b ∨
      (baseFor page base).IsHttp ∧ (baseFor page base).authority = page.authority ∧ b.IsHttp := by
  obtain ⟨text, rfl, hread⟩ := Option.bind_eq_some_iff.mp h
  unfold baseFor
  rw [Option.bind_some]
  by_cases hstays : staysOnHost text.toList = true
  · obtain ⟨u, hu, hauthority, hhttp⟩ := join?_of_stays hpage hstays
    rw [hu]
    exact Or.inr ⟨hhttp, hauthority, isHttp_of_read? hstays hread⟩
  · obtain ⟨scheme, rest, hsplit, -⟩ := exists_scheme_of_read? hread
    rw [join?_eq_read? hpage (by simp [hsplit]) (by simpa using hstays), hread]
    exact Or.inl rfl

/-- Where a base leads an authority is read as in `http`, if it is where the base is a URL by
itself. -/
theorem readsLikeHttp_baseFor (hpage : page.IsHttp) {cs : List Char}
    (h : ∀ b, absolute? base = some b → b.ReadsLikeHttp cs) :
    (baseFor page base).ReadsLikeHttp cs := by
  cases habsolute : absolute? base with
  | none => exact (isHttp_baseFor hpage habsolute).readsLikeHttp cs
  | some b =>
    rcases baseFor_of_absolute hpage habsolute with hb | ⟨hb, -⟩
    · rw [hb]
      exact h b habsolute
    · exact hb.readsLikeHttp cs

end

/-! ## What passes for the page -/

/-- A reference and a base are read in the same way by those who ask for the origin and by those who
follow the reference. -/
structure ReadsAlike (href : List Char) (base : Option String) : Prop where
  /-- Where neither the reference nor the base names a host, the reference stays on the host, -/
  stays : namesHost href = false → absolute? base = none → staysOnHost href = true
  /-- and the base has not two slashes in front. -/
  base_stays : namesHost href = false → absolute? base = none →
    ∀ b, base = some b → slashes (clean b.toList) < 2
  /-- Two slashes in front of a reference are not three, -/
  two_slashes : ∀ cs, href = '/' :: '/' :: cs → slashes (clean href) = 2
  /-- and what stands behind them is the same authority in the scheme of the base as in `http`. -/
  authority : ∀ cs, href = '/' :: '/' :: cs → ∀ b, absolute? base = some b →
    b.ReadsLikeHttp (cleanRest cs)
  /-- A reference with a scheme that names a host has two slashes behind the scheme. -/
  scheme : namesHost href = true → ∀ scheme rest,
    splitScheme? (clean href) = some (scheme, rest) → 2 ≤ slashes rest

theorem liesOn_congr {u v : Url} (h : u.authority = v.authority) (host : Option String) :
    liesOn (some u) host = liesOn (some v) host := by
  unfold liesOn
  rw [Option.bind_some, Option.bind_some, h]

/-- A reference that stays on the host of its base lies where the base lies. -/
theorem liesOn_join?_of_stays {page b : Url} {text : List Char} {host : Option String}
    (hb : b.IsHttp) (hauthority : b.authority = page.authority) (h : staysOnHost text = true) :
    liesOn (join? b text) host = liesOn (some page) host := by
  obtain ⟨u, hu, hu', -⟩ := join?_of_stays hb h
  rw [hu, liesOn_congr (hu'.trans hauthority)]

section

variable {page : Url} {href : List Char} {base host : Option String}

/-- A reference that names a host leads to the host of the URL that is made of it. -/
theorem liesOn_join?_of_namesHost (hpage : page.IsHttp) (halike : ReadsAlike href base)
    (hnames : namesHost href = true) (h : liesOn (ofReference? href) host = true) :
    liesOn (join? (baseFor page base) href) host = true := by
  by_cases hfront : ∃ cs, href = '/' :: '/' :: cs
  · -- the scheme is that of the base on one side and `http` on the other
    obtain ⟨cs, rfl⟩ := hfront
    have hbase := readsLikeHttp_baseFor hpage (halike.authority cs rfl)
    rw [join?_of_two_slashes_in_front hbase.path hbase.kind_ne_file, liesOn_readLocated? hbase]
    rwa [ofReference?, read?_of_two_slashes_in_front (halike.two_slashes cs rfl)] at h
  · -- with a scheme of its own the reference is read without the base on both sides
    have hself : ofReference? href = read? href := by
      unfold ofReference?
      split
      · next cs => exact absurd ⟨cs, rfl⟩ hfront
      · rfl
    rw [hself] at h
    cases hread : read? href with
    | none =>
      rw [hread] at h
      exact absurd h (by simp [liesOn])
    | some u =>
      obtain ⟨scheme, rest, hsplit, -⟩ := exists_scheme_of_read? hread
      rwa [join?_of_two_slashes hsplit (halike.scheme hnames scheme rest hsplit)]

/-- One that names none leads to the host of the page, if the base does not lead elsewhere, -/
theorem liesOn_join?_of_no_absolute (hpage : page.IsHttp) (halike : ReadsAlike href base)
    (hhost : liesOn (some page) host = true) (hnames : namesHost href = false)
    (habsolute : absolute? base = none) : liesOn (join? (baseFor page base) href) host = true := by
  have hbase := isHttp_baseFor hpage habsolute
  have hauthority := authority_baseFor hpage habsolute (halike.base_stays hnames habsolute)
  rw [liesOn_join?_of_stays hbase hauthority (halike.stays hnames habsolute)]
  exact hhost

/-- and otherwise to where it leads from the base. -/
theorem liesOn_join?_of_absolute {b : Url} (hpage : page.IsHttp)
    (hhost : liesOn (some page) host = true) (habsolute : absolute? base = some b)
    (h : liesOn (join? b href) host = true) :
    liesOn (join? (baseFor page base) href) host = true := by
  rcases baseFor_of_absolute hpage habsolute with hb | ⟨hbase, hauthority, hb⟩
  · rwa [hb]
  · by_cases hstays : staysOnHost href = true
    · rw [liesOn_join?_of_stays hbase hauthority hstays]
      exact hhost
    · rwa [join?_congr hbase hb (by simpa using hstays)]

end

/-- Let a host be written as URLs write it, up to the case of letters. What passes for a stylesheet
of the page on that host lies there, wherever it is that the reference and the base are read in the
same way. -/
theorem same_origin_lies_on_the_page (href : String) (base : Option String) (host : String)
    (hhost : liesOn (page? host) (some host) = true) (halike : ReadsAlike href.toList base)
    (h : isSameOrigin href base (some host) = true) :
    liesOn (resolve? host base href) (some host) = true := by
  cases hpage? : page? host with
  | none =>
    rw [hpage?] at hhost
    exact absurd hhost (by simp [liesOn])
  | some page =>
    rw [hpage?] at hhost
    have hpage := isHttp_of_http hpage?
    rw [resolve?, hpage?, Option.bind_some]
    unfold isSameOrigin at h
    dsimp only at h
    by_cases hnames : namesHost href.toList = true
    · rw [if_pos hnames] at h
      exact liesOn_join?_of_namesHost hpage halike hnames h
    · rw [if_neg hnames] at h
      cases habsolute : absolute? base with
      | none =>
        have hnames' : namesHost href.toList = false := by simpa using hnames
        exact liesOn_join?_of_no_absolute hpage halike hhost hnames' habsolute
      | some b =>
        refine liesOn_join?_of_absolute hpage hhost habsolute ?_
        unfold absolute? at habsolute
        rwa [habsolute] at h

theorem reference_with_port_lies_on_the_page :
    liesOn (page? "[::1]:8080") (some "[::1]:8080") = true ∧
      ReadsAlike "//[::1]:8080/a.css".toList (some "http://[::2]/") ∧
      isSameOrigin "//[::1]:8080/a.css" (some "http://[::2]/") (some "[::1]:8080") = true ∧
      liesOn (resolve? "[::1]:8080" (some "http://[::2]/") "//[::1]:8080/a.css")
        (some "[::1]:8080") = true := by
  have hhost : liesOn (page? "[::1]:8080") (some "[::1]:8080") = true := by decide +kernel
  have hnames : namesHost "//[::1]:8080/a.css".toList = true := by decide +kernel
  have hscheme : splitScheme? (clean "//[::1]:8080/a.css".toList) = none := by decide +kernel
  have hbase : ∀ b, absolute? (some "http://[::2]/") = some b → b.IsHttp := by
    intro b hb
    have htext : "http://[::2]/".toList = "http:".toList ++ '/' :: "/[::2]/".toList := by
      decide +kernel
    rw [absolute?, Option.bind_some, htext] at hb
    exact isHttp_of_http hb
  have hslashes : slashes (clean "//[::1]:8080/a.css".toList) = 2 := by decide +kernel
  have halike : ReadsAlike "//[::1]:8080/a.css".toList (some "http://[::2]/") := by
    refine ⟨?_, ?_, fun _ _ => hslashes, fun cs _ b hb => (hbase b hb).readsLikeHttp _, ?_⟩
    · exact fun h => absurd (hnames.symm.trans h) (by simp)
    · exact fun h => absurd (hnames.symm.trans h) (by simp)
    · exact fun _ scheme rest h => absurd (hscheme.symm.trans h) (by simp)
  have hsame : isSameOrigin "//[::1]:8080/a.css" (some "http://[::2]/") (some "[::1]:8080") =
      true := by decide +kernel
  exact ⟨hhost, halike, hsame, same_origin_lies_on_the_page _ _ _ hhost halike hsame⟩

/-- A base with two slashes in front is not looked at. Whatever host it names, a reference that
stays on its host passes for one to the page, and leads to that host. -/
theorem foreign_base_passes {host href base : String} {cs : List Char} {page u : Url}
    (hpage : page? host = some page) (hbase : base.toList = '/' :: '/' :: cs)
    (hslashes : slashes (clean base.toList) = 2)
    (hu : read? ("http:".toList ++ base.toList) = some u)
    (hnames : namesHost href.toList = false) (hstays : staysOnHost href.toList = true) :
    isSameOrigin href (some base) (some host) = true ∧
      ∃ v, resolve? host (some base) href = some v ∧ v.authority = u.authority := by
  have hscheme : splitScheme? (clean base.toList) = none := by
    rw [hbase, clean_cons (by decide), splitScheme?_slash]
  have habsolute : read? base.toList = none := by
    unfold read? readAgainst?
    simp only [hscheme]
    rfl
  have hfor : baseFor page (some base) = u := by
    rw [hbase] at hslashes hu
    unfold baseFor
    have hhttp : page.IsHttp := isHttp_of_http hpage
    rw [Option.bind_some, hbase, join?_of_two_slashes_in_front hhttp.path hhttp.kind_ne_file,
      hhttp.scheme, ← read?_of_two_slashes_in_front hslashes, hu]
    rfl
  rw [hbase] at hu
  obtain ⟨v, hv, hauthority, -⟩ := join?_of_stays (isHttp_of_http hu) hstays
  refine ⟨?_, v, ?_, hauthority⟩
  · unfold isSameOrigin
    dsimp only
    rw [if_neg (by simp [hnames]), Option.bind_some, habsolute]
  · rw [resolve?, hpage, Option.bind_some, hfor]
    exact hv

/-- So a page can load a stylesheet from another host. -/
theorem stylesheet_of_another_host_passes :
    liesOn (page? "[::1]") (some "[::1]") = true ∧
      isSameOrigin "a.css" (some "//[::2]/") (some "[::1]") = true ∧
      liesOn (resolve? "[::1]" (some "//[::2]/") "a.css") (some "[::1]") = false ∧
      liesOn (resolve? "[::1]" (some "//[::2]/") "a.css") (some "[::2]") = true := by
  decide +kernel

end MediaQuery.Url
