import Mathlib.Data.List.Induction

/-!
# Streams that are read in chunks

A decoder turns symbols into outputs, one symbol at a time, and a consumer takes the outputs until
it has seen enough. A stream comes in chunks: each chunk is decoded as a whole before any of its
outputs is taken, and when the consumer stops in the middle of a chunk the decoder has already seen
the rest of it. So what comes after the symbol at which the stream is decided may matter or not,
depending on where the chunk was cut.

## Main definitions

* `feed`, `takeAll`: the decoder on many symbols, and the consumer on many outputs
* `readAll`: the result of a stream that comes in chunks
* `Open`, `Decided`: the symbols so far leave the consumer waiting, or they are the ones that decide
* `afterwards`: the result if the chunk that decides goes on with the given symbols

## Main results

* `readAll_of_open`, `readAll_of_failed`: streams whose chunks do not matter
* `exists_readAll_eq`, `readAll_cons_of_decided`: the results of all ways to cut a stream that is
  decided
* `forall_readAll_eq_iff`: when they are all the same
-/

namespace Chunked

variable {I O S T R ε γ : Type}

section Feed

variable (step : S → I → Except ε (List O × S))

/-- Decodes symbols one after the other. -/
def feed : S → List I → Except ε (List O × S)
  | s, [] => .ok ([], s)
  | s, x :: xs =>
    match step s x with
    | .error e => .error e
    | .ok (out, s') =>
      match feed s' xs with
      | .error e => .error e
      | .ok (rest, s'') => .ok (out ++ rest, s'')

@[simp] theorem feed_nil (s : S) : feed step s [] = .ok ([], s) := rfl

theorem feed_append (s : S) (xs ys : List I) :
    feed step s (xs ++ ys) =
      match feed step s xs with
      | .error e => .error e
      | .ok (out, s') =>
        match feed step s' ys with
        | .error e => .error e
        | .ok (rest, s'') => .ok (out ++ rest, s'') := by
  induction xs generalizing s with
  | nil =>
    simp only [List.nil_append, feed_nil]
    cases feed step s ys <;> rfl
  | cons x xs ih =>
    simp only [List.cons_append, feed]
    cases step s x with
    | error e => rfl
    | ok r =>
      obtain ⟨out, s'⟩ := r
      simp only [ih]
      cases feed step s' xs with
      | error e => rfl
      | ok r' =>
        obtain ⟨out', s''⟩ := r'
        simp only
        cases feed step s'' ys <;> simp

variable {step} {s s' : S} {xs ys : List I} {out : List O}

theorem feed_append_ok (h : feed step s xs = .ok (out, s')) (ys : List I) :
    feed step s (xs ++ ys) =
      match feed step s' ys with
      | .error e => .error e
      | .ok (rest, s'') => .ok (out ++ rest, s'') := by
  rw [feed_append, h]

theorem feed_append_error {e : ε} (h : feed step s xs = .error e) (ys : List I) :
    feed step s (xs ++ ys) = .error e := by
  rw [feed_append, h]

theorem feed_cons_silent {x : I} (h : step s x = .ok ([], s')) :
    feed step s (x :: xs) = feed step s' xs := by
  simp only [feed, h]
  cases feed step s' xs <;> rfl

theorem exists_of_feed_cons {x : I} {s'' : S} (h : feed step s (x :: xs) = .ok (out, s'')) :
    ∃ out₁ s' out₂, step s x = .ok (out₁, s') ∧ feed step s' xs = .ok (out₂, s'') ∧
      out = out₁ ++ out₂ := by
  simp only [feed] at h
  split at h
  · cases h
  · rename_i out₁ s' h₁
    split at h
    · cases h
    · rename_i out₂ s₂ h₂
      cases h
      exact ⟨out₁, s', out₂, h₁, h₂, rfl⟩

/-- What decodes, decodes part by part. -/
theorem exists_of_feed_append {out : List O} {s'' : S}
    (h : feed step s (xs ++ ys) = .ok (out, s'')) :
    ∃ out₁ s' out₂, feed step s xs = .ok (out₁, s') ∧ feed step s' ys = .ok (out₂, s'') ∧
      out = out₁ ++ out₂ := by
  rw [feed_append] at h
  split at h
  · cases h
  · rename_i out₁ s' h₁
    split at h
    · cases h
    · rename_i out₂ s₂ h₂
      cases h
      exact ⟨out₁, s', out₂, h₁, h₂, rfl⟩

end Feed

section Take

variable (take : T → O → Except γ (T × Bool))

/-- Takes outputs one after the other, up to one with which the consumer has seen enough. -/
def takeAll : T → List O → Except γ (T × Bool)
  | t, [] => .ok (t, false)
  | t, o :: os =>
    match take t o with
    | .error e => .error e
    | .ok (t', true) => .ok (t', true)
    | .ok (t', false) => takeAll t' os

@[simp] theorem takeAll_nil (t : T) : takeAll take t [] = .ok (t, false) := rfl

theorem takeAll_append (t : T) (xs ys : List O) :
    takeAll take t (xs ++ ys) =
      match takeAll take t xs with
      | .error e => .error e
      | .ok (t', true) => .ok (t', true)
      | .ok (t', false) => takeAll take t' ys := by
  induction xs generalizing t with
  | nil => rfl
  | cons x xs ih =>
    simp only [List.cons_append, takeAll]
    cases take t x with
    | error e => rfl
    | ok r =>
      obtain ⟨t', stop⟩ := r
      cases stop with
      | true => rfl
      | false => exact ih t'

end Take

section Read

variable (step : S → I → Except ε (List O × S)) (take : T → O → Except γ (T × Bool))
  (bad : γ) (conclude : S → T → Except γ R)

/-- The result of a stream that comes in chunks. A chunk that does not decode is `bad`, whatever
comes before the symbol that does not. -/
def readAll : S → T → List (List I) → Except γ R
  | s, t, [] => conclude s t
  | s, t, chunk :: chunks =>
    match feed step s chunk with
    | .error _ => .error bad
    | .ok (out, s') =>
      match takeAll take t out with
      | .error e => .error e
      | .ok (t', true) => conclude s' t'
      | .ok (t', false) => readAll s' t' chunks

/-- The symbols decode, and the consumer waits for more. -/
def Open (s : S) (t : T) (xs : List I) (s' : S) (t' : T) : Prop :=
  ∃ out, feed step s xs = .ok (out, s') ∧ takeAll take t out = .ok (t', false)

/-- The consumer waits for more. -/
def Waits : Except γ (T × Bool) → Prop
  | .ok (_, false) => True
  | _ => False

/-- The last of the symbols decides: the consumer has seen enough, or fails, and it was waiting for
more before. -/
structure Decided (s : S) (t : T) (xs : List I) (s' : S) (verdict : Except γ (T × Bool)) :
    Prop where
  feed : ∃ out, feed step s xs = .ok (out, s') ∧ takeAll take t out = verdict
  stops : ¬ Waits verdict
  before : ∀ ys, ys <+: xs → ys ≠ xs → ∃ s'' t'', Open step take s t ys s'' t''

/-- The result if the chunk that decides goes on with the given symbols. -/
def afterwards (s : S) (verdict : Except γ (T × Bool)) (ys : List I) : Except γ R :=
  match Chunked.feed step s ys with
  | .error _ => .error bad
  | .ok (_, s') =>
    match verdict with
    | .error e => .error e
    | .ok (t', _) => conclude s' t'

variable {step take bad conclude} {s s' s'' : S} {t t' t'' : T} {xs ys : List I}

theorem Open.nil (s : S) (t : T) : Open step take s t [] s t := ⟨[], rfl, rfl⟩

/-- The consumer was waiting all along. -/
theorem Open.of_append (h : Open step take s t (xs ++ ys) s'' t'') :
    ∃ s' t', Open step take s t xs s' t' ∧ Open step take s' t' ys s'' t'' := by
  obtain ⟨out, hfeed, htake⟩ := h
  obtain ⟨out₁, s', out₂, h₁, h₂, rfl⟩ := exists_of_feed_append hfeed
  rw [takeAll_append] at htake
  split at htake
  · cases htake
  · cases htake
  · rename_i t' ht'
    exact ⟨s', t', ⟨out₁, h₁, ht'⟩, ⟨out₂, h₂, htake⟩⟩

theorem Open.unique (h : Open step take s t xs s' t') (h' : Open step take s t xs s'' t'') :
    s' = s'' ∧ t' = t'' := by
  obtain ⟨out, hfeed, htake⟩ := h
  obtain ⟨out', hfeed', htake'⟩ := h'
  rw [hfeed] at hfeed'
  cases hfeed'
  rw [htake] at htake'
  cases htake'
  exact ⟨rfl, rfl⟩

/-- **A chunk that leaves the consumer waiting** is followed by the rest. -/
theorem readAll_cons_of_open (h : Open step take s t xs s' t') (chunks : List (List I)) :
    readAll step take bad conclude s t (xs :: chunks) =
      readAll step take bad conclude s' t' chunks := by
  obtain ⟨out, hfeed, htake⟩ := h
  simp only [readAll, hfeed, htake]

variable {chunks : List (List I)}

theorem readAll_of_open (h : Open step take s t chunks.flatten s' t') :
    readAll step take bad conclude s t chunks = conclude s' t' := by
  induction chunks generalizing s t with
  | nil =>
    obtain ⟨rfl, rfl⟩ := (Open.nil s t).unique h
    rfl
  | cons chunk chunks ih =>
    obtain ⟨s₁, t₁, hchunk, hrest⟩ := Open.of_append h
    rw [readAll_cons_of_open hchunk]
    exact ih hrest

/-! ## Streams that do not decode -/

/-- The symbols do not decode, and the consumer waits up to the one that does not. -/
structure Failed (step : S → I → Except ε (List O × S)) (take : T → O → Except γ (T × Bool))
    (s : S) (t : T) (xs : List I) : Prop where
  feed : ∃ e, feed step s xs = .error e
  before : ∀ ys, ys <+: xs → (∃ r, Chunked.feed step s ys = .ok r) →
    ∃ s' t', Open step take s t ys s' t'

theorem Failed.of_append (h : Failed step take s t (xs ++ ys))
    (hopen : Open step take s t xs s' t') : Failed step take s' t' ys where
  feed := by
    obtain ⟨e, he⟩ := h.feed
    obtain ⟨out, hfeed, -⟩ := hopen
    rw [feed_append_ok hfeed] at he
    split at he
    · rename_i e' he'
      exact ⟨e', he'⟩
    · cases he
  before zs hzs hfed := by
    obtain ⟨⟨out', s₂⟩, hfeed'⟩ := hfed
    obtain ⟨out, hfeed, -⟩ := id hopen
    have hboth : ∃ r, Chunked.feed step s (xs ++ zs) = .ok r := by
      rw [feed_append_ok hfeed, hfeed']
      exact ⟨_, rfl⟩
    obtain ⟨s₃, t₃, hopen₃⟩ := h.before (xs ++ zs) ((List.prefix_append_right_inj xs).mpr hzs) hboth
    obtain ⟨s₄, t₄, hxs, hrest⟩ := hopen₃.of_append
    obtain ⟨rfl, rfl⟩ := hxs.unique hopen
    exact ⟨s₃, t₃, hrest⟩

theorem readAll_of_failed (h : Failed step take s t chunks.flatten) :
    readAll step take bad conclude s t chunks = .error bad := by
  induction chunks generalizing s t with
  | nil =>
    obtain ⟨e, he⟩ := h.feed
    cases he
  | cons chunk chunks ih =>
    cases hfeed : feed step s chunk with
    | error e => simp only [readAll, hfeed]
    | ok r =>
      obtain ⟨s', t', hopen⟩ := h.before chunk (List.prefix_append chunk _) ⟨r, hfeed⟩
      rw [readAll_cons_of_open hopen]
      exact ih (Failed.of_append h hopen)

/-! ## Streams that are decided -/

variable {verdict : Except γ (T × Bool)} {s₁ : S} (bad conclude)

variable (h : Decided step take s t xs s₁ verdict)
include h

/-- The chunk that decides. -/
theorem readAll_cons_of_decided (ys : List I) (chunks : List (List I)) :
    readAll step take bad conclude s t ((xs ++ ys) :: chunks) =
      afterwards step bad conclude s₁ verdict ys := by
  obtain ⟨out, hfeed, htake⟩ := h.feed
  have hstops := h.stops
  simp only [readAll, afterwards, feed_append_ok hfeed]
  cases feed step s₁ ys with
  | error e => rfl
  | ok r =>
    obtain ⟨rest, s₂⟩ := r
    simp only [takeAll_append, htake]
    -- the consumer does not look at the rest
    match verdict, hstops with
    | .error e, _ => rfl
    | .ok (t', true), _ => rfl
    | .ok (t', false), hstops => exact absurd trivial hstops

theorem Decided.ne_nil : xs ≠ [] := by
  rintro rfl
  obtain ⟨out, hfeed, htake⟩ := h.feed
  cases hfeed
  rw [takeAll_nil] at htake
  rw [← htake] at h
  exact h.stops trivial

omit h in
theorem Decided.of_append (h : Decided step take s t (xs ++ ys) s₁ verdict)
    (hopen : Open step take s t xs s' t') : Decided step take s' t' ys s₁ verdict where
  feed := by
    obtain ⟨out, hfeed, htake⟩ := h.feed
    obtain ⟨out₁, s₂, out₂, h₁, h₂, rfl⟩ := exists_of_feed_append hfeed
    obtain ⟨out₃, h₃, htake₃⟩ := hopen
    rw [h₁] at h₃
    cases h₃
    rw [takeAll_append, htake₃] at htake
    exact ⟨out₂, h₂, htake⟩
  stops := h.stops
  before zs hzs hne := by
    obtain ⟨s₃, t₃, hopen₃⟩ := h.before (xs ++ zs) ((List.prefix_append_right_inj xs).mpr hzs)
      fun heq => hne (List.append_cancel_left heq)
    obtain ⟨s₄, t₄, hxs, hrest⟩ := hopen₃.of_append
    obtain ⟨rfl, rfl⟩ := hxs.unique hopen
    exact ⟨s₃, t₃, hrest⟩

/-- **Every way to cut a stream that is decided** has the result of some first symbols of the rest.
-/
theorem exists_readAll_eq {rest : List I} (hchunks : chunks.flatten = xs ++ rest) :
    ∃ ys, ys <+: rest ∧ readAll step take bad conclude s t chunks =
      afterwards step bad conclude s₁ verdict ys := by
  induction chunks generalizing s t xs with
  | nil =>
    have hnil := (List.append_eq_nil_iff.mp hchunks.symm).1
    exact absurd hnil h.ne_nil
  | cons chunk chunks ih =>
    rw [List.flatten_cons] at hchunks
    rcases List.append_eq_append_iff.mp hchunks with ⟨zs, rfl, hrest⟩ | ⟨zs, rfl, rfl⟩
    · by_cases hzs : zs = []
      · -- the chunk ends where the stream is decided
        subst hzs
        rw [List.append_nil] at h
        have hread := readAll_cons_of_decided bad conclude h [] chunks
        rw [List.append_nil] at hread
        exact ⟨[], List.nil_prefix, hread⟩
      · have hproper : chunk ≠ chunk ++ zs := fun heq => hzs (List.append_right_eq_self.mp heq.symm)
        obtain ⟨s', t', hopen⟩ := h.before chunk (List.prefix_append chunk zs) hproper
        rw [readAll_cons_of_open hopen]
        exact ih (h.of_append hopen) hrest
    · exact ⟨zs, List.prefix_append zs _, readAll_cons_of_decided bad conclude h zs chunks⟩

omit h

/-- A stream leaves the consumer waiting, fails, or is decided by some of its first symbols. -/
theorem open_or_failed_or_decided (step : S → I → Except ε (List O × S))
    (take : T → O → Except γ (T × Bool)) (s : S) (t : T) (xs : List I) :
    (∃ s' t', Open step take s t xs s' t') ∨ Failed step take s t xs ∨
      ∃ ys zs s₁ verdict, xs = ys ++ zs ∧ Decided step take s t ys s₁ verdict := by
  induction xs using List.reverseRecOn with
  | nil => exact .inl ⟨s, t, .nil s t⟩
  | append_singleton xs x ih =>
    rcases ih with ⟨s', t', hopen⟩ | hfailed | ⟨ys, zs, s₁, verdict, rfl, hdecided⟩
    · -- the consumer has been waiting up to the last symbol
      have hbefore : ∀ ys, ys <+: xs ++ [x] → ys ≠ xs ++ [x] →
          ∃ s' t', Open step take s t ys s' t' := by
        intro ys hys hne
        rcases List.prefix_concat_iff.mp hys with heq | hys
        · exact absurd heq hne
        · obtain ⟨zs, rfl⟩ := hys
          obtain ⟨s₂, t₂, hys, -⟩ := hopen.of_append
          exact ⟨s₂, t₂, hys⟩
      obtain ⟨out, hfeed, htake⟩ := id hopen
      cases hlast : feed step s' [x] with
      | error e =>
        have hfeed' : feed step s (xs ++ [x]) = .error e := by rw [feed_append_ok hfeed, hlast]
        refine .inr (.inl ⟨⟨e, hfeed'⟩, fun ys hys hfed => hbefore ys hys ?_⟩)
        rintro rfl
        obtain ⟨r, hr⟩ := hfed
        rw [hfeed'] at hr
        cases hr
      | ok r =>
        obtain ⟨out', s₂⟩ := r
        have hfeed' : feed step s (xs ++ [x]) = .ok (out ++ out', s₂) := by
          rw [feed_append_ok hfeed, hlast]
        by_cases hwaits : Waits (takeAll take t (out ++ out'))
        · match hverdict : takeAll take t (out ++ out'), hwaits with
          | .ok (t₂, false), _ => exact .inl ⟨s₂, t₂, out ++ out', hfeed', hverdict⟩
        · exact .inr (.inr ⟨xs ++ [x], [], s₂, _, (List.append_nil _).symm,
            ⟨_, hfeed', rfl⟩, hwaits, hbefore⟩)
    · -- what does not decode does not decode any more
      refine .inr (.inl ⟨?_, fun ys hys hfed => ?_⟩)
      · obtain ⟨e, he⟩ := hfailed.feed
        exact ⟨e, feed_append_error he [x]⟩
      · rcases List.prefix_concat_iff.mp hys with rfl | hys
        · obtain ⟨e, he⟩ := hfailed.feed
          obtain ⟨r, hr⟩ := hfed
          rw [feed_append_error he] at hr
          cases hr
        · exact hfailed.before ys hys hfed
    · exact .inr (.inr ⟨ys, zs ++ [x], s₁, verdict, List.append_assoc ys zs [x], hdecided⟩)

/-- **When the chunks do not matter**: if the stream is decided by some of its first symbols, then
what comes after them makes no difference. -/
theorem forall_readAll_eq_iff :
    (∀ chunks chunks' : List (List I), chunks.flatten = xs → chunks'.flatten = xs →
      readAll step take bad conclude s t chunks = readAll step take bad conclude s t chunks') ↔
    ∀ ys zs s₁ verdict, xs = ys ++ zs → Decided step take s t ys s₁ verdict → ∀ us, us <+: zs →
      afterwards step bad conclude s₁ verdict us = afterwards step bad conclude s₁ verdict [] := by
  constructor
  · rintro h ys zs s₁ verdict rfl hdecided us ⟨vs, rfl⟩
    have heq := h [ys ++ us, vs] [ys ++ [], us ++ vs] (by simp) (by simp)
    rwa [readAll_cons_of_decided bad conclude hdecided,
      readAll_cons_of_decided bad conclude hdecided] at heq
  · intro h chunks chunks' hchunks hchunks'
    rcases open_or_failed_or_decided step take s t xs with
      ⟨s', t', hopen⟩ | hfailed | ⟨ys, zs, s₁, verdict, rfl, hdecided⟩
    · rw [readAll_of_open (hchunks ▸ hopen), readAll_of_open (hchunks' ▸ hopen)]
    · rw [readAll_of_failed (hchunks ▸ hfailed), readAll_of_failed (hchunks' ▸ hfailed)]
    · obtain ⟨us, hus, heq⟩ := exists_readAll_eq bad conclude hdecided hchunks
      obtain ⟨us', hus', heq'⟩ := exists_readAll_eq bad conclude hdecided hchunks'
      rw [heq, heq', h ys zs s₁ verdict rfl hdecided us hus,
        h ys zs s₁ verdict rfl hdecided us' hus']

end Read

end Chunked
