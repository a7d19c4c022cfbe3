import ApiManger.Chain.Rendering
import ApiManger.Experiments.RequestUrl

/-!
# Merged queries

`_merge_url_query` takes a url apart and puts it together again with another query. Scheme, host
and port, and path stay what they were.
-/

namespace ApiManger.Experiments
open Python Recipe

/-! ## Splitting a url -/

theorem isSchemeChar_low {c : Char} (inside : isSchemeChar c = true) : c.toNat < 128 := by
  unfold isSchemeChar Char.isAlphanum at inside
  simp only [Bool.or_eq_true, beq_iff_eq] at inside
  rcases inside with (((letter | digit) | rfl) | rfl) | rfl
  · have range := isAlpha_range letter
    omega
  · have range := isDigit_range digit
    omega
  all_goals decide

/-- What lowering does to a character of a scheme. -/
theorem toLower_scheme {c : Char} (inside : isSchemeChar c = true) :
    isSchemeChar c.toLower = true ∧ c.toLower.toLower = c.toLower ∧ c.toLower.isAlpha = c.isAlpha := by
  have all : ∀ n : Fin 128, isSchemeChar (Char.ofNat n) = true → isSchemeChar (Char.ofNat n).toLower = true ∧
      (Char.ofNat n).toLower.toLower = (Char.ofNat n).toLower ∧
      (Char.ofNat n).toLower.isAlpha = (Char.ofNat n).isAlpha := by decide +kernel
  have here := all ⟨c.toNat, isSchemeChar_low inside⟩
  rw [Char.ofNat_toNat] at here
  exact here inside

/-- A url with a scheme and a host, in its parts. -/
structure Absolute (scheme netloc rest : List Char) : Prop where
  letter : scheme.head?.any Char.isAlpha = true
  scheme : ∀ c ∈ scheme, isSchemeChar c = true
  netloc : ∀ c ∈ ['/', '?', '#'], c ∉ netloc
  rest : ∀ c, rest.head? = some c → c = '/' ∨ c = '?' ∨ c = '#'

/-- The url of the parts. -/
def absoluteUrl (scheme netloc rest : List Char) : List Char := scheme ++ ':' :: '/' :: '/' :: (netloc ++ rest)

/-- What follows the host is path up to a query or a fragment. -/
def pathOfRest (rest : List Char) : List Char := (rest.takeWhile (· != '#')).takeWhile (· != '?')

variable {scheme netloc rest : List Char}

theorem Absolute.splitScheme (url : Absolute scheme netloc rest) :
    splitScheme (absoluteUrl scheme netloc rest) = (scheme.map Char.toLower, '/' :: '/' :: (netloc ++ rest)) := by
  have front : (absoluteUrl scheme netloc rest).takeWhile (· != ':') = scheme := by
    refine takeWhile_append_stop (fun c mem => ?_) fun c first => ?_
    · rw [bne_iff_ne]
      rintro rfl
      cases url.scheme _ mem
    · cases first
      rfl
  have marked : (absoluteUrl scheme netloc rest).contains ':' = true :=
    List.contains_iff_mem.mpr (List.mem_append_right _ (.head _))
  have all : scheme.all isSchemeChar = true := List.all_eq_true.mpr url.scheme
  unfold Python.splitScheme
  dsimp only
  rw [front, marked, url.letter, all, Bool.and_self, Bool.and_self, if_pos rfl, absoluteUrl, ← List.drop_drop,
    List.drop_left]
  rfl

theorem Absolute.splitNetloc (url : Absolute scheme netloc rest) :
    splitNetloc ('/' :: '/' :: (netloc ++ rest)) = (netloc, rest) := by
  have all : ∀ c ∈ netloc, (c != '/' && c != '?' && c != '#') = true := by
    intro c mem
    simp only [Bool.and_eq_true, bne_iff_ne]
    refine ⟨⟨?_, ?_⟩, ?_⟩ <;> rintro rfl <;> exact url.netloc _ (by decide) mem
  have stops : ∀ c, rest.head? = some c → (c != '/' && c != '?' && c != '#') = false := by
    intro c first
    rcases url.rest c first with rfl | rfl | rfl <;> rfl
  change ((netloc ++ rest).takeWhile (fun c => c != '/' && c != '?' && c != '#'),
    (netloc ++ rest).dropWhile (fun c => c != '/' && c != '?' && c != '#')) = (netloc, rest)
  rw [takeWhile_append_stop all stops, dropWhile_append_stop all stops]

/-- A url is split into the parts it is made of. -/
theorem Absolute.urlsplit (url : Absolute scheme netloc rest) :
    urlsplit (absoluteUrl scheme netloc rest) = ⟨scheme.map Char.toLower, netloc, pathOfRest rest⟩ := by
  unfold Python.urlsplit
  rw [url.splitScheme]
  dsimp only
  rw [url.splitNetloc]
  rfl

/-! ## Putting it together again -/

/-- What stands after the path. -/
def urlTail (query fragment : List Char) : List Char :=
  (if query.isEmpty then [] else '?' :: query) ++ if fragment.isEmpty then [] else '#' :: fragment

theorem urlunsplit_absolute {path : List Char} (named : scheme ≠ []) (hosted : netloc ≠ [])
    (slash : ∀ c, path.head? = some c → c = '/') (query fragment : List Char) :
    urlunsplit ⟨scheme, netloc, path⟩ query fragment = absoluteUrl scheme netloc (path ++ urlTail query fragment) := by
  have noScheme : scheme.isEmpty = false := Bool.eq_false_iff.mpr (mt List.isEmpty_iff.mp named)
  have noHost : netloc.isEmpty = false := Bool.eq_false_iff.mpr (mt List.isEmpty_iff.mp hosted)
  have starts : (!path.isEmpty && path.head? != some '/') = false := by
    cases path with
    | nil => rfl
    | cons c path =>
      cases slash c rfl
      rfl
  unfold urlunsplit urlTail absoluteUrl
  dsimp only
  rw [noScheme, noHost, starts]
  cases query <;> cases fragment <;> simp

/-- What a path reads after itself ends it. -/
theorem pathOfRest_append {path tail : List Char} (plain : ∀ c ∈ path, c ≠ '#' ∧ c ≠ '?')
    (ends : ∀ c, tail.head? = some c → c = '?' ∨ c = '#') : pathOfRest (path ++ tail) = path := by
  have first : ∀ c ∈ path, (c != '#') = true := fun c mem => bne_iff_ne.mpr (plain c mem).1
  have second : ∀ c ∈ path, (c != '?') = true := fun c mem => bne_iff_ne.mpr (plain c mem).2
  unfold pathOfRest
  cases tail with
  | nil => rw [List.append_nil, List.takeWhile_eq_self_iff.mpr first, List.takeWhile_eq_self_iff.mpr second]
  | cons c tail =>
    rcases ends c rfl with rfl | rfl
    · rw [List.takeWhile_append_of_pos first, List.takeWhile_cons_of_pos rfl]
      exact takeWhile_append_stop second fun c first => by cases first; rfl
    · rw [takeWhile_append_stop first fun c first => by cases first; rfl, List.takeWhile_eq_self_iff.mpr second]

theorem pathOfRest_plain (rest : List Char) : ∀ c ∈ pathOfRest rest, c ≠ '#' ∧ c ≠ '?' := by
  intro c mem
  have outer : c ∈ rest.takeWhile (· != '#') := (List.takeWhile_prefix _).subset mem
  have hash : (c != '#') = true := List.mem_takeWhile_imp (p := (· != '#')) outer
  have mark : (c != '?') = true := List.mem_takeWhile_imp (p := (· != '?')) mem
  exact ⟨bne_iff_ne.mp hash, bne_iff_ne.mp mark⟩

/-! ## Cleaning a url -/

/-- What `urlsplit` keeps of the characters of a url. -/
def isKept (c : Char) : Bool := c != '\t' && c != '\r' && c != '\n'

theorem isKept_scheme {c : Char} (inside : isSchemeChar c = true) : isKept c = true := by
  unfold isKept
  simp only [Bool.and_eq_true, bne_iff_ne]
  refine ⟨⟨?_, ?_⟩, ?_⟩ <;> rintro rfl <;> cases inside

theorem cleanedUrl_absolute (url : Absolute scheme netloc rest) (clean : ∀ c ∈ netloc, isKept c = true) :
    cleanedUrl (absoluteUrl scheme netloc rest) = absoluteUrl scheme netloc (rest.filter isKept) := by
  have first : (absoluteUrl scheme netloc rest).dropWhile (fun c => c.toNat ≤ 32) = absoluteUrl scheme netloc rest := by
    refine dropWhile_of_head fun c first => ?_
    have letter := url.letter
    cases scheme with
    | nil => cases letter
    | cons d scheme =>
      obtain rfl : d = c := Option.some.inj first
      have range := isAlpha_range (show d.isAlpha = true from letter)
      exact decide_eq_false (by omega)
  have kept : scheme.filter isKept = scheme := List.filter_eq_self.mpr fun c mem => isKept_scheme (url.scheme c mem)
  have host : netloc.filter isKept = netloc := List.filter_eq_self.mpr clean
  unfold cleanedUrl
  rw [first]
  change (absoluteUrl scheme netloc rest).filter isKept = _
  unfold absoluteUrl
  rw [List.filter_append, kept, List.filter_cons_of_pos rfl, List.filter_cons_of_pos rfl, List.filter_cons_of_pos rfl,
    List.filter_append, host]

theorem urlTail_head {query fragment : List Char} : ∀ c, (urlTail query fragment).head? = some c →
    c = '?' ∨ c = '#' := by
  intro c first
  cases query with
  | cons d query =>
    cases first
    exact .inl rfl
  | nil =>
    cases fragment with
    | cons d fragment =>
      cases first
      exact .inr rfl
    | nil => cases first

/-- What is kept of the end of a url begins like it. -/
theorem urlTail_kept {query fragment : List Char} : ∀ c, ((urlTail query fragment).filter isKept).head? = some c →
    c = '?' ∨ c = '#' := by
  intro c first
  cases whole : urlTail query fragment with
  | nil => rw [whole] at first; cases first
  | cons d tail =>
    have marked := urlTail_head d (by rw [whole]; rfl)
    have kept : isKept d = true := by rcases marked with rfl | rfl <;> rfl
    rw [whole, List.filter_cons_of_pos kept] at first
    exact Option.some.inj first ▸ marked

theorem begins_append {path tail : List Char} (slash : ∀ c, path.head? = some c → c = '/')
    (ends : ∀ c, tail.head? = some c → c = '?' ∨ c = '#') :
    ∀ c, (path ++ tail).head? = some c → c = '/' ∨ c = '?' ∨ c = '#' := by
  intro c first
  cases path with
  | nil => exact .inr (ends c first)
  | cons d path => exact .inl (Option.some.inj first ▸ slash d rfl)

/-- With the scheme in lower case a url is as absolute as before. -/
theorem Absolute.lowered (url : Absolute scheme netloc rest) {rest' : List Char}
    (starts : ∀ c, rest'.head? = some c → c = '/' ∨ c = '?' ∨ c = '#') :
    Absolute (scheme.map Char.toLower) netloc rest' := by
  refine ⟨?_, fun c mem => ?_, url.netloc, starts⟩
  · have letter := url.letter
    cases scheme with
    | nil => cases letter
    | cons d scheme => exact (toLower_scheme (url.scheme d (.head _))).2.2.trans letter
  · obtain ⟨d, inside, rfl⟩ := List.mem_map.mp mem
    exact (toLower_scheme (url.scheme d inside)).1

theorem Absolute.lower_lower (url : Absolute scheme netloc rest) :
    (scheme.map Char.toLower).map Char.toLower = scheme.map Char.toLower := by
  rw [List.map_map]
  exact List.map_congr_left fun c mem => (toLower_scheme (url.scheme c mem)).2.1

/-- **Merging a query.** Scheme, host and port, and path of a url stay what `urlsplit` reads. -/
theorem mergeUrlQuery_keeps (url : Absolute scheme netloc rest) (hosted : netloc ≠ [])
    (clean : ∀ c ∈ netloc, isKept c = true) (slash : ∀ c, rest.head? = some c → c = '/')
    {refusesNetloc : String → Bool} {query : Dict} {merged : List Char}
    (done : mergeUrlQuery refusesNetloc (absoluteUrl scheme netloc rest) query = .ok merged) :
    urlsplit (cleanedUrl merged) = urlsplit (cleanedUrl (absoluteUrl scheme netloc rest)) := by
  unfold mergeUrlQuery at done
  split at done
  · rw [Except.ok.inj done]
  · dsimp only at done
    split at done
    · cases done
    · -- what is kept of the path begins with a separator, if anything is kept
      have begins : ∀ c, (rest.filter isKept).head? = some c → c = '/' := by
        intro c first
        cases rest with
        | nil => cases first
        | cons d rest =>
          cases slash d rfl
          rw [List.filter_cons_of_pos rfl] at first
          exact (Option.some.inj first).symm
      have pathBegins : ∀ c, (pathOfRest (rest.filter isKept)).head? = some c → c = '/' := by
        intro c first
        cases whole : rest.filter isKept with
        | nil => rw [whole] at first; cases first
        | cons d tail =>
          cases begins d (by rw [whole]; rfl)
          rw [whole] at first
          exact (Option.some.inj first).symm
      have cleaned : Absolute scheme netloc (rest.filter isKept) :=
        ⟨url.letter, url.scheme, url.netloc, fun c first => .inl (begins c first)⟩
      rw [cleanedUrl_absolute url clean, cleaned.urlsplit] at done ⊢
      cases done
      generalize fragmentOf _ = fragment
      generalize urlencode _ = encoded
      have named : scheme.map Char.toLower ≠ [] := by
        intro none
        rw [List.map_eq_nil_iff.mp none] at url
        cases url.letter
      have inside : ∀ c ∈ pathOfRest (rest.filter isKept), isKept c = true := fun c mem =>
        (List.mem_filter.mp (((List.takeWhile_prefix _).trans (List.takeWhile_prefix _)).subset mem)).2
      rw [urlunsplit_absolute named hosted pathBegins,
        cleanedUrl_absolute (url.lowered (begins_append pathBegins urlTail_head)) clean, List.filter_append,
        List.filter_eq_self.mpr inside, (url.lowered (begins_append pathBegins urlTail_kept)).urlsplit,
        pathOfRest_append (pathOfRest_plain _) urlTail_kept, url.lower_lower]

end ApiManger.Experiments
