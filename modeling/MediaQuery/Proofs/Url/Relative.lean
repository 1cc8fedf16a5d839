import MediaQuery.Url.Origin

/-!
# Where a reference leads from a URL

A reference that is read against a URL of `http` stays on its host or leaves it, and which of the
two it does can be seen from the reference alone: `staysOnHost`. If it stays, the host is that of
the URL (`join?_of_stays`); if it leaves, the URL does not matter (`join?_congr`), and not at all if
the reference has a scheme (`join?_eq_read?`).
-/

namespace MediaQuery.Url

/-- The scheme that pages are loaded by. -/
def http : List Char := "http".toList

/-- A URL of `http` to which others can be relative. -/
structure IsHttp (u : Url) : Prop where
  scheme : u.scheme = http
  path : u.path.isSome = true

/-- How many slashes, of either kind, a text begins with. -/
def slashes (cs : List Char) : Nat := (cs.takeWhile isSlash).length

/-- Whether a reference leads from a URL of `http` to the same host: it has no other scheme, and not
two slashes in front or behind its scheme. -/
def staysOnHost (text : List Char) : Bool :=
  match splitScheme? (clean text) with
  | some (scheme, rest) => scheme == http && decide (slashes rest < 2)
  | none => decide (slashes (clean text) < 2)

/-- Without a scheme only two slashes lead away from the host. -/
theorem two_le_slashes {text : List Char} (hscheme : splitScheme? (clean text) = none)
    (h : staysOnHost text = false) : 2 ≤ slashes (clean text) := by
  unfold staysOnHost at h
  rw [hscheme] at h
  exact Nat.le_of_not_lt (of_decide_eq_false h)

theorem IsHttp.kind {u : Url} (h : u.IsHttp) : u.kind = .web 80 := by
  rw [Url.kind, h.scheme]
  rfl

theorem IsHttp.kind_ne_file {u : Url} (h : u.IsHttp) : u.kind ≠ .file := by
  rw [h.kind]
  decide

/-! ## Slashes -/

theorem slashes_cons {c : Char} (h : isSlash c = true) (cs : List Char) :
    slashes (c :: cs) = slashes cs + 1 := by
  simp [slashes, h]

theorem slashes_cons_of_not {c : Char} (h : isSlash c = false) (cs : List Char) :
    slashes (c :: cs) = 0 := by
  simp [slashes, h]

theorem exists_of_two_le_slashes {cs : List Char} (h : 2 ≤ slashes cs) :
    ∃ a b rest, cs = a :: b :: rest ∧ isSlash a = true ∧ isSlash b = true := by
  match cs with
  | [] => exact absurd h (by simp [slashes])
  | [a] =>
    by_cases ha : isSlash a = true
    · exact absurd h (by simp [slashes, ha])
    · exact absurd h (by simp [slashes, ha])
  | a :: b :: rest =>
    by_cases ha : isSlash a = true
    · by_cases hb : isSlash b = true
      · exact ⟨a, b, rest, rfl, ha, hb⟩
      · rw [slashes_cons ha, slashes_cons_of_not (by simpa using hb)] at h
        omega
    · rw [slashes_cons_of_not (by simpa using ha)] at h
      omega

/-! ## Relative references -/

theorem ofRelative_keeps {base : Url} {cs : List Char} (hpath : base.path.isSome = true) :
    (ofRelative base cs).authority = base.authority ∧ (ofRelative base cs).scheme = base.scheme ∧
      (ofRelative base cs).path.isSome = true := by
  unfold ofRelative
  dsimp only
  split
  · exact ⟨rfl, rfl, hpath⟩
  · exact ⟨rfl, rfl, rfl⟩

/-- With fewer than two slashes in front a reference leads to the host of its base. -/
theorem readRelative?_of_slashes_lt {base : Url} {cs : List Char} (hpath : base.path.isSome = true)
    (h : slashes cs < 2) :
    ∃ u, readRelative? base cs = some u ∧ u.authority = base.authority ∧ u.scheme = base.scheme ∧
      u.path.isSome = true := by
  unfold readRelative?
  split
  · next rest =>
    rw [slashes_cons (by decide), slashes_cons (by decide)] at h
    omega
  · next first rest _ =>
    by_cases hfirst : isSlash first = true
    · have hrest : rest.head?.any isSlash = false := by
        cases rest with
        | nil => rfl
        | cons second rest =>
          rw [slashes_cons hfirst] at h
          by_cases hsecond : isSlash second = true
          · rw [slashes_cons hsecond] at h
            omega
          · simpa using hsecond
      rw [if_neg (by simp [hfirst]), if_neg (by simp [hrest])]
      exact ⟨_, rfl, rfl, rfl, rfl⟩
    · rw [if_pos (by simp [hfirst])]
      exact ⟨_, rfl, ofRelative_keeps hpath⟩
  · exact ⟨base, rfl, rfl, rfl, hpath⟩

/-- With two slashes in front it takes from its base the scheme alone. -/
theorem readRelative?_of_two_le {cs : List Char} (h : 2 ≤ slashes cs) :
    ∃ rest, ∀ base : Url, readRelative? base cs = readLocated? base.scheme rest := by
  obtain ⟨first, second, rest, rfl, hfirst, hsecond⟩ := exists_of_two_le_slashes h
  by_cases hboth : first = '/' ∧ second = '/'
  · obtain ⟨rfl, rfl⟩ := hboth
    exact ⟨rest, fun base => by rw [readRelative?]⟩
  · refine ⟨(first :: second :: rest).dropWhile isSlash, fun base => ?_⟩
    unfold readRelative?
    split
    · next hcs =>
      obtain ⟨rfl, hrest⟩ := List.cons.inj hcs
      obtain ⟨rfl, -⟩ := List.cons.inj hrest
      exact absurd ⟨rfl, rfl⟩ hboth
    · next hcs =>
      obtain ⟨rfl, rfl⟩ := List.cons.inj hcs
      rw [if_neg (by simp [hfirst]), if_pos (by simp [hsecond])]
    · next hcs => exact absurd hcs (by simp)

/-! ## References with a scheme -/

/-- The scheme of a URL of `http` may be repeated in front of a relative reference. -/
theorem readAfterScheme?_of_slashes_lt {b : Url} {cs : List Char} (hb : b.IsHttp)
    (h : slashes cs < 2) : readAfterScheme? (some b) http cs = readRelative? b cs := by
  have hkind : SchemeKind.ofName http = .web 80 := rfl
  have hfilter : (some b).filter (fun b => b.scheme == http &&
      ((cs.takeWhile isSlash).length < 2 : Bool)) = some b := by
    rw [Option.filter_some, if_pos]
    simpa [hb.scheme, slashes] using h
  unfold readAfterScheme?
  simp only [hkind, hfilter]

/-- A scheme with two slashes behind it leads away from any base, and another scheme than that of
the base does so in any case. -/
theorem readAfterScheme?_eq {b : Url} {scheme cs : List Char}
    (h : 2 ≤ slashes cs ∨ b.kind ≠ .file ∧ scheme ≠ b.scheme) :
    readAfterScheme? (some b) scheme cs = readAfterScheme? none scheme cs := by
  unfold readAfterScheme?
  cases hkind : SchemeKind.ofName scheme with
  | file =>
    simp only
    rcases h with h | ⟨hfile, -⟩
    · obtain ⟨first, second, rest, rfl, hfirst, hsecond⟩ := exists_of_two_le_slashes h
      simp [readFile?, hfirst, hsecond]
    · have hfilter : (some b).filter (·.kind == .file) = none := by
        rw [Option.filter_some, if_neg (by simpa using hfile)]
      rw [hfilter]
      rfl
  | web number =>
    have hfilter : (some b).filter (fun b => b.scheme == scheme &&
        ((cs.takeWhile isSlash).length < 2 : Bool)) = none := by
      rw [Option.filter_some, if_neg]
      rcases h with h | ⟨-, hscheme⟩
      · have hlength : ¬ (cs.takeWhile isSlash).length < 2 := Nat.not_lt.mpr h
        simp [hlength]
      · simp [Ne.symm hscheme]
    simp only [hfilter]
    rfl
  | other => rfl

/-- A reference with two slashes behind its scheme leads to one URL from everywhere. -/
theorem join?_of_two_slashes {b : Url} {text scheme rest : List Char}
    (hsplit : splitScheme? (clean text) = some (scheme, rest)) (h : 2 ≤ slashes rest) :
    join? b text = read? text := by
  unfold join? read? readAgainst?
  simp only [hsplit]
  exact readAfterScheme?_eq (Or.inl h)

/-! ## References against a URL of `http` -/

theorem readWithoutScheme?_eq {b : Url} {cs : List Char} (hpath : b.path.isSome = true)
    (hfile : b.kind ≠ .file) (hhash : cs.head? ≠ some '#') :
    readWithoutScheme? b cs = readRelative? b cs := by
  have hnone : ¬ b.path.isNone = true := by
    rw [← Option.not_isSome, hpath]
    decide
  unfold readWithoutScheme?
  rw [if_neg (by simpa using hhash), if_neg hnone, if_neg (by simpa using hfile)]

/-- Two slashes in front of a reference lead to another host. -/
theorem join?_of_two_le {text : List Char} (hscheme : splitScheme? (clean text) = none)
    (h : 2 ≤ slashes (clean text)) :
    ∃ rest, ∀ {b : Url}, b.IsHttp → join? b text = readLocated? http rest := by
  obtain ⟨rest, hrest⟩ := readRelative?_of_two_le h
  refine ⟨rest, fun {b} hb => ?_⟩
  -- no fragment has two slashes in front
  have hhash : (clean text).head? ≠ some '#' := by
    obtain ⟨first, second, rest, he, hfirst, -⟩ := exists_of_two_le_slashes h
    rw [he]
    intro hhead
    obtain rfl := Option.some.inj hhead
    exact absurd hfirst (by decide)
  unfold join? readAgainst?
  simp only [hscheme, Option.bind_some]
  rw [readWithoutScheme?_eq hb.path hb.kind_ne_file hhash, hrest, hb.scheme]

/-- A reference that stays on the host leads there, to a URL of the same kind. -/
theorem join?_of_stays {b : Url} {text : List Char} (hb : b.IsHttp) (h : staysOnHost text = true) :
    ∃ u, join? b text = some u ∧ u.authority = b.authority ∧ u.IsHttp := by
  unfold staysOnHost at h
  unfold join? readAgainst?
  dsimp only
  cases hsplit : splitScheme? (clean text) with
  | some split =>
    obtain ⟨scheme, rest⟩ := split
    rw [hsplit] at h
    obtain ⟨rfl, hslashes⟩ : scheme = http ∧ slashes rest < 2 := by simpa using h
    obtain ⟨u, hu, hauthority, hu', hpath⟩ := readRelative?_of_slashes_lt hb.path hslashes
    exact ⟨u, (readAfterScheme?_of_slashes_lt hb hslashes).trans hu, hauthority,
      ⟨hu'.trans hb.scheme, hpath⟩⟩
  | none =>
    rw [hsplit] at h
    have hslashes : slashes (clean text) < 2 := by simpa using h
    obtain ⟨u, hu, hauthority, hu', hpath⟩ := readRelative?_of_slashes_lt hb.path hslashes
    simp only [Option.bind_some]
    by_cases hhash : (clean text).head? = some '#'
    · rw [readWithoutScheme?, if_pos (by simp [hhash])]
      exact ⟨b, rfl, rfl, hb⟩
    · rw [readWithoutScheme?_eq hb.path hb.kind_ne_file hhash]
      exact ⟨u, hu, hauthority, ⟨hu'.trans hb.scheme, hpath⟩⟩

/-- Wherever such a reference leads, it is there. -/
theorem isHttp_of_stays {b u : Url} {text : List Char} (hb : b.IsHttp)
    (h : staysOnHost text = true) (hu : join? b text = some u) : u.IsHttp := by
  obtain ⟨u', hu', -, hhttp⟩ := join?_of_stays hb h
  rw [hu] at hu'
  obtain rfl := Option.some.inj hu'
  exact hhttp

/-- One that leaves it and has a scheme leads where it leads by itself. -/
theorem join?_eq_read? {b : Url} {text : List Char} (hb : b.IsHttp)
    (hscheme : splitScheme? (clean text) ≠ none) (h : staysOnHost text = false) :
    join? b text = read? text := by
  unfold staysOnHost at h
  unfold join? read? readAgainst?
  dsimp only
  cases hsplit : splitScheme? (clean text) with
  | none => exact absurd hsplit hscheme
  | some split =>
    obtain ⟨scheme, rest⟩ := split
    rw [hsplit] at h
    refine readAfterScheme?_eq ?_
    by_cases hslashes : 2 ≤ slashes rest
    · exact Or.inl hslashes
    · have hlt : slashes rest < 2 := by omega
      have hne : scheme ≠ http := by simpa [hlt] using h
      exact Or.inr ⟨hb.kind_ne_file, by rwa [hb.scheme]⟩

/-- One that leaves it leads to one URL from all URLs of `http`. -/
theorem join?_congr {b b' : Url} {text : List Char} (hb : b.IsHttp) (hb' : b'.IsHttp)
    (h : staysOnHost text = false) : join? b text = join? b' text := by
  cases hsplit : splitScheme? (clean text) with
  | some split =>
    have hscheme : splitScheme? (clean text) ≠ none := by simp [hsplit]
    rw [join?_eq_read? hb hscheme h, join?_eq_read? hb' hscheme h]
  | none =>
    obtain ⟨rest, hrest⟩ := join?_of_two_le hsplit (two_le_slashes hsplit h)
    rw [hrest hb, hrest hb']

end MediaQuery.Url
