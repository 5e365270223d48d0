import Mathlib
import InlineC.Host.Extension
import InlineC.Proofs.Runs
import InlineC.Proofs.Batches

/-!
# Background builds

A background build runs a worker that prepares the extension while the caller goes on with
fallbacks. Its state is the caller's own: native code, callbacks and the worker run in the
host and cannot reach it, and the worker hands its result over once, through `bgFinish`.

Here a session is the world, the build, and what the worker handed over when it finished.
Its runs are the caller's calls (`bgDefine`, `bgSub`, `bgCommit`, `bgPoll`, `bgInvoke`)
interleaved with the worker finishing at any point after the build started, with success or
an error (a panic's included), having done to the world whatever it did. The main result is
that along every run:

* the build switches to native code only once started, without a failure, and after the
  worker succeeded; a failure excludes the switch and wraps the worker's error;
* being started or switched, a failure and every function's body are never taken back, and
  the worker's result is taken at most once;
* once started, defining, supplying a body and starting again are refused as too late and
  change nothing, as is a second body; a start that fails changes nothing;
* once the failure has been seen, every call returns it; before, a call returns the native
  function's result exactly when the build has switched and the function was declared.
-/

namespace InlineC.Host

open InlineC.Machine

/-! ## What a build keeps -/

namespace DynamicFn

/-- A function keeps its name, and its body and its proxy once it has them. -/
structure Keeps (f f' : DynamicFn) : Prop where
  name : f'.name = f.name
  body : ∀ x, f.body = some x → f'.body = some x
  proxy : f.proxy = true → f'.proxy = true

/-- Every function keeps itself. -/
theorem Keeps.refl (f : DynamicFn) : f.Keeps f := ⟨rfl, fun _ h => h, id⟩

/-- Every list of functions keeps itself, member by member. -/
theorem forall₂_keeps_refl (fns : List DynamicFn) : List.Forall₂ Keeps fns fns :=
  List.forall₂_same.2 fun f _ => Keeps.refl f

/-- Keeping composes. -/
theorem Keeps.trans {f g h : DynamicFn} (h₁ : f.Keeps g) (h₂ : g.Keeps h) : f.Keeps h :=
  ⟨h₂.name.trans h₁.name, fun x hx => h₂.body x (h₁.body x hx), fun hp => h₂.proxy (h₁.proxy hp)⟩

/-- Keeping, member by member, composes along lists. -/
theorem forall₂_keeps_trans {l₁ l₂ l₃ : List DynamicFn} (h₁ : List.Forall₂ Keeps l₁ l₂)
    (h₂ : List.Forall₂ Keeps l₂ l₃) : List.Forall₂ Keeps l₁ l₃ := by
  induction h₁ generalizing l₃ with
  | nil => cases h₂; exact .nil
  | cons hf _ ih =>
    cases h₂ with
    | cons hg hrest => exact .cons (hf.trans hg) (ih hrest)

end DynamicFn

namespace Background

/-- What a build keeps from one step to the next: being started or switched, its failure, and
its functions, each keeping what it had, with new ones only after them. -/
structure Keeps (b b' : Background) : Prop where
  started : b.started = true → b'.started = true
  switched : b.switched = true → b'.switched = true
  fatal : ∀ e, b.fatal = some e → b'.fatal = some e
  fns : ∃ kept more, b'.fns = kept ++ more ∧ List.Forall₂ DynamicFn.Keeps b.fns kept

/-- A step that changes only the functions, each keeping what it had. -/
theorem keeps_of_fns {b : Background} {fns : List DynamicFn}
    (h : List.Forall₂ DynamicFn.Keeps b.fns fns) : b.Keeps { b with fns } :=
  ⟨id, id, fun _ => id, fns, [], by simp, h⟩

/-- Every background keeps itself. -/
theorem Keeps.refl (b : Background) : b.Keeps b := by
  simpa using keeps_of_fns (b := b) (DynamicFn.forall₂_keeps_refl b.fns)

/-- Keeping composes. -/
theorem Keeps.trans {b b' b'' : Background} (h₁ : b.Keeps b') (h₂ : b'.Keeps b'') : b.Keeps b'' := by
  obtain ⟨k₁, m₁, hb', hk₁⟩ := h₁.fns
  obtain ⟨k₂, m₂, hb'', hk₂⟩ := h₂.fns
  rw [hb'] at hk₂
  -- the functions kept by the first step are kept again by the first ones of the second
  have hk : List.Forall₂ DynamicFn.Keeps k₁ (k₂.take k₁.length) := by
    simpa using List.forall₂_take k₁.length hk₂
  refine ⟨h₂.started ∘ h₁.started, h₂.switched ∘ h₁.switched, fun e he => h₂.fatal e (h₁.fatal e he),
    k₂.take k₁.length, k₂.drop k₁.length ++ m₂, ?_, DynamicFn.forall₂_keeps_trans hk₁ hk⟩
  rw [hb'', ← List.append_assoc, List.take_append_drop]

/-! ### Defining a function and supplying its body -/

variable {b : Background} {ext : Except FailureReport Extension} {name fn body doc : String}
  {sig : Signature} {fallback : Option CallbackSpec}

/-- A definition leaves the build as it was or adds a function after the others, only before
the build has started. -/
theorem define_cases :
    (b.define ext name sig fallback).2 = b ∨
      (b.started = false ∧ ∃ f : DynamicFn, f.proxy = false ∧
        (b.define ext name sig fallback).2 = { b with fns := b.fns ++ [f] }) := by
  unfold define
  split
  · exact .inl rfl
  next hs =>
    have hs : b.started = false := by simpa using hs
    split
    · exact .inl rfl
    · split
      · exact .inl rfl
      · split
        · exact .inl rfl
        · exact .inr ⟨hs, _, rfl, rfl⟩

/-- Defining a function keeps what the background held. -/
theorem define_keeps : b.Keeps (b.define ext name sig fallback).2 := by
  rcases @define_cases b ext name sig fallback with
    h | ⟨-, f, -, h⟩
  · rw [h]
    exact Keeps.refl b
  · rw [h]
    exact ⟨id, id, fun _ => id, b.fns, [f], rfl, DynamicFn.forall₂_keeps_refl b.fns⟩

/-- Once the build has started, a definition is too late and changes nothing. -/
theorem define_started (h : b.started = true) :
    b.define ext name sig fallback = (.error Errors.tooLate, b) := by
  simp [define, h]

/-- Supplying a body fills the first function of that name without one, and keeps the rest. -/
theorem supplyBody_keeps (fns : List DynamicFn) :
    List.Forall₂ DynamicFn.Keeps fns (supplyBody fn body doc fns) := by
  induction fns with
  | nil => exact .nil
  | cons g rest ih =>
    unfold supplyBody
    split
    next hg =>
      -- the function had no body, so it keeps all it had
      have hnone : g.body = none := Option.isNone_iff_eq_none.1 (Bool.and_eq_true _ _ ▸ hg).2
      refine .cons ⟨rfl, fun x hx => ?_, id⟩ (DynamicFn.forall₂_keeps_refl rest)
      rw [hnone] at hx
      cases hx
    next => exact .cons (DynamicFn.Keeps.refl g) ih

/-- Supplying a body gives no function a proxy. -/
theorem supplyBody_proxy (fns : List DynamicFn) :
    (supplyBody fn body doc fns).map (·.proxy) = fns.map (·.proxy) := by
  induction fns with
  | nil => rfl
  | cons g rest ih =>
    unfold supplyBody
    split
    · rfl
    · simp [ih]

/-- Supplying a body leaves the build as it was, or fills a body before the build started. -/
theorem supply_cases :
    (b.supply fn body doc).2 = b ∨
      (b.started = false ∧ (b.supply fn body doc).2 = { b with fns := supplyBody fn body doc b.fns }) := by
  unfold supply
  split
  · exact .inl rfl
  · split
    · exact .inl rfl
    next h =>
      simp only [Bool.or_eq_true, not_or, Bool.not_eq_true] at h
      exact .inr ⟨h.2, rfl⟩

/-- Supplying a body keeps what the background held. -/
theorem supply_keeps : b.Keeps (b.supply fn body doc).2 := by
  rcases @supply_cases b fn body doc with h | ⟨-, h⟩
  · rw [h]
    exact Keeps.refl b
  · rw [h]
    exact keeps_of_fns (supplyBody_keeps b.fns)

/-- A function that has a body, or any function once the build has started, gets no other
body: too late, and nothing changes. -/
theorem supply_late {f : DynamicFn} (hf : b.fns.find? (·.name == fn) = some f)
    (h : f.body.isSome = true ∨ b.started = true) :
    b.supply fn body doc = (some (.error Errors.tooLate), b) := by
  have hlate : (f.body.isSome || b.started) = true := by simpa [Bool.or_eq_true] using h
  simp only [supply, hf, hlate, if_true]

/-! ### Starting -/

/-- Starting marks the build started and gives every function with a body its proxy. -/
theorem committed_keeps (b : Background) : b.Keeps b.committed := by
  refine ⟨fun _ => rfl, id, fun _ => id,
    b.fns.map (fun f => if f.body.isSome then { f with proxy := true } else f), [],
    by simp [committed], ?_⟩
  rw [List.forall₂_map_right_iff]
  refine List.forall₂_same.2 fun f _ => ?_
  split
  · exact ⟨rfl, fun _ h => h, fun _ => rfl⟩
  · exact DynamicFn.Keeps.refl f

/-! ### Polling -/

/-- A poll takes the worker's result at most: it leaves the build as it was, or, on a build
that has started, neither switched nor failed, and holds a result, it takes the result and
either switches (on success) or records the failure that wraps the worker's error. -/
theorem poll_cases (b : Background) (name : String) :
    (b.poll name).2 = b ∨
      (b.switched = false ∧ b.fatal = none ∧ b.started = true ∧
        ((b.result = some none ∧ b.poll name = (.ok true, { b with switched := true, result := none })) ∨
         ∃ e, b.result = some (some e) ∧
           b.poll name = (.error (Errors.backgroundCompile name e),
             { b with fatal := some (Errors.backgroundCompile name e), result := none }))) := by
  unfold poll
  cases hsw : b.switched with
  | true => exact .inl rfl
  | false =>
    cases hf : b.fatal with
    | some e => exact .inl rfl
    | none =>
      cases hs : b.started with
      | false => exact .inl rfl
      | true =>
        cases hr : b.result with
        | none => exact .inl rfl
        | some r =>
          cases r with
          | none => exact .inr ⟨rfl, rfl, rfl, .inl ⟨rfl, by simp⟩⟩
          | some e => exact .inr ⟨rfl, rfl, rfl, .inr ⟨e, rfl, by simp⟩⟩

/-- Polling keeps what the background held. -/
theorem poll_keeps (b : Background) (name : String) : b.Keeps (b.poll name).2 := by
  rcases poll_cases b name with h | ⟨hsw, hf, -, ⟨-, h⟩ | ⟨e, -, h⟩⟩
  · rw [h]
    exact Keeps.refl b
  · rw [h]
    exact ⟨id, fun _ => rfl, fun e he => (by rw [hf] at he; cases he), b.fns, [], by simp,
      DynamicFn.forall₂_keeps_refl b.fns⟩
  · rw [h]
    exact ⟨id, id, fun e he => (by rw [hf] at he; cases he), b.fns, [], by simp,
      DynamicFn.forall₂_keeps_refl b.fns⟩

/-- A poll that reports ready leaves the build switched, and one that reports not ready leaves
it not switched. -/
theorem poll_ready {name : String} {ready : Bool} (h : (b.poll name).1 = .ok ready) :
    ready = (b.poll name).2.switched := by
  unfold poll at h ⊢
  -- the readiness reported is the switch after the poll, on every path
  cases hsw : b.switched with
  | true => simpa [hsw] using h.symm
  | false =>
    cases hf : b.fatal with
    | some e => simp [hsw, hf] at h
    | none =>
      cases hs : b.started with
      | false => simpa [hsw, hf, hs] using h.symm
      | true =>
        cases hr : b.result with
        | none => simpa [hsw, hf, hs, hr] using h.symm
        | some r =>
          cases r with
          | none => simpa [hsw, hf, hs, hr] using h.symm
          | some e => simp [hsw, hf, hs, hr] at h

/-- A build that has failed, and not switched, reports its failure and stays as it is. -/
theorem poll_fatal {name : String} {e : FailureReport} (hsw : b.switched = false)
    (hf : b.fatal = some e) : b.poll name = (.error e, b) := by
  simp [poll, hsw, hf]

/-- A poll that reports a failure leaves it recorded in the build. -/
theorem poll_error {name : String} {e : FailureReport} (h : (b.poll name).1 = .error e) :
    (b.poll name).2.fatal = some e := by
  unfold poll at h ⊢
  -- the failure reported is the one the build has after the poll, on every path
  cases hsw : b.switched with
  | true => simp [hsw] at h
  | false =>
    cases hf : b.fatal with
    | some e' => simp_all
    | none =>
      cases hs : b.started with
      | false => simp [hsw, hf, hs] at h
      | true =>
        cases hr : b.result with
        | none => simp [hsw, hf, hs, hr] at h
        | some r =>
          cases r with
          | none => simp [hsw, hf, hs, hr] at h
          | some e' => simp_all

/-- A poll that reports readiness leaves the failure as it was. -/
theorem poll_ok {name : String} {ready : Bool} (h : (b.poll name).1 = .ok ready) :
    (b.poll name).2.fatal = b.fatal := by
  rcases poll_cases b name with hp | ⟨-, -, -, ⟨-, hp⟩ | ⟨e, -, hp⟩⟩
  · rw [hp]
  · rw [hp]
  · rw [hp] at h
    cases h

/-- Polling does not start the background. -/
theorem poll_started (b : Background) (name : String) : (b.poll name).2.started = b.started := by
  rcases poll_cases b name with hp | ⟨-, -, -, ⟨-, hp⟩ | ⟨e, -, hp⟩⟩ <;> rw [hp]

end Background

/-! ## Sessions -/

/-- A background build, the world it runs beside, and what its worker handed over once it
finished: none for success, or its error. -/
@[ext] structure Session where
  world : World HostState
  build : Background
  worker : Option (Option FailureReport) := none

namespace Session

/-- Run a call of the caller on a session: the world and the build change, and what the
worker handed over stays. -/
def call {α : Type} (s : Session) (x : BgM α) : Except Fault (α × Session) :=
  match (x.run s.build).run s.world with
  | .ok ((a, b), w) => .ok (a, { s with world := w, build := b })
  | .error f => .error f

variable {α β : Type} {s s' : Session}

/-- A call on the caller's side ends when the build state's run ends, and leaves the worker alone.
-/
theorem call_eq_ok_iff {x : BgM α} {a : α} :
    s.call x = .ok (a, s') ↔
      (x.run s.build).run s.world = .ok ((a, s'.build), s'.world) ∧ s'.worker = s.worker := by
  unfold call
  cases h : (x.run s.build).run s.world with
  | error f => simp
  | ok p =>
    obtain ⟨⟨a', b⟩, w⟩ := p
    constructor
    · intro h'
      cases h'
      exact ⟨rfl, rfl⟩
    · rintro ⟨h', hw⟩
      cases h'
      rw [Except.ok.injEq, Prod.mk.injEq]
      exact ⟨rfl, Session.ext rfl rfl hw.symm⟩

end Session

/-- A bind of the caller's code ends well exactly when its first part does and then the rest. -/
theorem bg_run_bind_eq_ok {x : BgM α} {f : α → BgM β} {b b' : Background}
    {w w' : World HostState} {c : β} :
    ((x >>= f).run b).run w = .ok ((c, b'), w') ↔
      ∃ a b₁ w₁, (x.run b).run w = .ok ((a, b₁), w₁) ∧ ((f a).run b₁).run w₁ = .ok ((c, b'), w') := by
  rw [StateT.run_bind, run_bind_eq_ok]
  constructor
  · rintro ⟨⟨a, b₁⟩, w₁, h₁, h₂⟩
    exact ⟨a, b₁, w₁, h₁, h₂⟩
  · rintro ⟨a, b₁, w₁, h₁, h₂⟩
    exact ⟨(a, b₁), w₁, h₁, h₂⟩

/-- Host code run by the caller leaves the build as it is. -/
theorem bg_run_lift (x : HostM α) (b : Background) (w : World HostState) :
    ((liftM x : BgM α).run b).run w = (x.run w).map fun p => ((p.1, b), p.2) := by
  simp only [liftM, monadLift, MonadLift.monadLift, StateT.run_lift, StateT.run_bind]
  cases x.run w <;> rfl

/-- Host code run by the caller ends well exactly when it ends well in the host, and the build
stays as it is. -/
theorem bg_run_lift_eq_ok {x : HostM α} {a : α} {b b' : Background} {w w' : World HostState} :
    ((liftM x : BgM α).run b).run w = .ok ((a, b'), w') ↔ x.run w = .ok (a, w') ∧ b' = b := by
  rw [bg_run_lift]
  cases x.run w with
  | error f => simp [Except.map]
  | ok p =>
    obtain ⟨a', w''⟩ := p
    simp only [Except.map, Except.ok.injEq, Prod.mk.injEq]
    constructor
    · rintro ⟨⟨rfl, rfl⟩, rfl⟩
      exact ⟨⟨rfl, rfl⟩, rfl⟩
    · rintro ⟨⟨rfl, rfl⟩, rfl⟩
      exact ⟨⟨rfl, rfl⟩, rfl⟩

/-- Reading the current extension changes nothing. -/
theorem currentExt_run_exists (w : World HostState) :
    ∃ x, (currentExt : HostM _).run w = .ok (x, w) := by
  unfold currentExt getExt
  cases h : ExtensionHost.ext w with
  | none => exact ⟨_, by simp [h]; rfl⟩
  | some e => exact ⟨_, by simp [h]; rfl⟩

/-- Reading the extension's name changes nothing. -/
theorem extName_run_exists (w : World HostState) : ∃ n, extName.run w = .ok (n, w) := by
  unfold extName getExt
  cases h : ExtensionHost.ext w with
  | none => exact ⟨_, by simp [h]; rfl⟩
  | some e => exact ⟨_, by simp [h]; rfl⟩

namespace Session

variable {s s' : Session}

/-- A definition changes the build as `Background.define` does, and nothing else. -/
theorem call_bgDefine (s : Session) (name : String) (sig : Signature)
    (fallback : Option CallbackSpec) : ∃ ext, s.call (bgDefine name sig fallback) =
      .ok ((s.build.define ext name sig fallback).1,
        { s with build := (s.build.define ext name sig fallback).2 }) := by
  obtain ⟨x, hx⟩ := currentExt_run_exists s.world
  refine ⟨x, ?_⟩
  simp only [call, bgDefine, StateT.run_bind, liftM, monadLift, MonadLift.monadLift,
    StateT.run_lift, hx, StateT.run_modifyGet]
  rfl

/-- Supplying a body changes the build as `Background.supply` does, and nothing else. -/
theorem call_bgSub (s : Session) (fn body doc : String) :
    s.call (bgSub fn body doc) =
      .ok ((s.build.supply fn body doc).1, { s with build := (s.build.supply fn body doc).2 }) :=
  rfl

/-- A poll changes the build as `Background.poll` does, for the extension's name, and nothing
else. -/
theorem call_bgPoll (s : Session) :
    ∃ name, s.call bgPoll = .ok ((s.build.poll name).1, { s with build := (s.build.poll name).2 }) := by
  obtain ⟨n, hn⟩ := extName_run_exists s.world
  refine ⟨n, ?_⟩
  simp only [call, bgPoll, StateT.run_bind, liftM, monadLift, MonadLift.monadLift,
    StateT.run_lift, hn, StateT.run_modifyGet]
  rfl

/-- The caller's code reading the build finds it and changes nothing. -/
theorem bg_run_get_eq_ok {b b₀ b₁ : Background} {w w₁ : World HostState}
    (h : ((get : BgM Background).run b).run w = .ok ((b₀, b₁), w₁)) : b₀ = b ∧ b₁ = b ∧ w₁ = w := by
  simp only [StateT.run_get] at h
  cases h
  exact ⟨rfl, rfl, rfl⟩

/-- A refusal the caller's code returns at once leaves the session as it was. -/
theorem call_refused {α : Type} {a e : α} (h : ((pure e : BgM α).run s.build).run s.world =
    .ok ((a, s'.build), s'.world)) (hw : s'.worker = s.worker) : a = e ∧ s' = s := by
  have h' : ((e, s.build), s.world) = ((a, s'.build), s'.world) := Except.ok.inj h
  simp only [Prod.mk.injEq] at h'
  obtain ⟨⟨rfl, hb⟩, hw'⟩ := h'
  exact ⟨rfl, Session.ext hw'.symm hb.symm hw⟩

/-- Starting either fails and changes nothing, or, on a build that had not started, declares the
units and leaves the build committed. -/
theorem call_bgCommit {r : Except FailureReport Unit} (h : s.call bgCommit = .ok (r, s')) :
    (∃ e, r = .error e ∧ s' = s) ∨
      (r = .ok () ∧ s.build.started = false ∧ s'.build = s.build.committed ∧
        s'.worker = s.worker) := by
  obtain ⟨hrun, hw⟩ := call_eq_ok_iff.1 h
  unfold bgCommit at hrun
  obtain ⟨b₀, b₁, w₁, hget, hrest⟩ := bg_run_bind_eq_ok.1 hrun
  obtain ⟨rfl, rfl, rfl⟩ := bg_run_get_eq_ok hget
  -- every refusal comes before anything is written
  have refused : ∀ e, ((pure (Except.error e) : BgM (Except FailureReport Unit)).run s.build).run
      s.world = .ok ((r, s'.build), s'.world) → ∃ e, r = .error e ∧ s' = s := by
    intro e he
    obtain ⟨rfl, rfl⟩ := call_refused he hw
    exact ⟨e, rfl, rfl⟩
  split at hrest
  · exact .inl (refused _ hrest)
  next hs =>
  split at hrest
  · exact .inl (refused _ hrest)
  obtain ⟨x, b₂, w₂, hx, hrest⟩ := bg_run_bind_eq_ok.1 hrest
  obtain ⟨y, hy⟩ := currentExt_run_exists s.world
  rw [bg_run_lift, hy] at hx
  cases hx
  split at hrest
  · exact .inl (refused _ hrest)
  split at hrest
  · exact .inl (refused _ hrest)
  -- the units are declared all at once, or none is and the world is as it was
  obtain ⟨u, b₃, w₃, hadd, hrest⟩ := bg_run_bind_eq_ok.1 hrest
  obtain ⟨hman, rfl⟩ := bg_run_lift_eq_ok.1 hadd
  cases u with
  | error e =>
    obtain rfl := addManaged_refused hman
    exact .inl (refused _ hrest)
  | ok names =>
  obtain ⟨u', b₄, w₄, hset, hpure⟩ := bg_run_bind_eq_ok.1 hrest
  simp only [StateT.run_set] at hset
  cases hset
  have hp : ((Except.ok (), s.build.committed), w₃) = ((r, s'.build), s'.world) := Except.ok.inj hpure
  simp only [Prod.mk.injEq] at hp
  obtain ⟨⟨rfl, hb⟩, -⟩ := hp
  exact .inr ⟨rfl, by simpa using hs, hb.symm, hw⟩

/-- A call of a defined function polls once, then returns the failure the poll reports, or
runs the native function when the poll finds the build ready and the function declared, or
else the fallback. Only the poll changes the build. -/
theorem call_bgInvoke {fn : String} {args : List HostValue} {f : DynamicFn} {o : Option Outcome}
    (hf : s.build.fns.find? (·.name == fn) = some f) (h : s.call (bgInvoke fn args) = .ok (o, s')) :
    ∃ p s₁, s.call bgPoll = .ok (p, s₁) ∧ s'.build = s₁.build ∧ s'.worker = s₁.worker ∧
      ((∃ e, p = .error e ∧ o = some (.error e) ∧ s' = s₁) ∨
       (∃ ready, p = .ok ready ∧ (ready && f.proxy) = true ∧
          ∃ v, (invokeProxy fn args).run s₁.world = .ok (v, s'.world) ∧ o = some (Outcome.ofResult v)) ∨
       (∃ ready, p = .ok ready ∧ (ready && f.proxy) = false ∧
          ∃ v, (runSpec hostDepth f.fallback args).run s₁.world = .ok (v, s'.world) ∧ o = some v)) := by
  obtain ⟨hrun, hw⟩ := call_eq_ok_iff.1 h
  unfold bgInvoke at hrun
  obtain ⟨b₀, b₁, w₁, hget, hrest⟩ := bg_run_bind_eq_ok.1 hrun
  obtain ⟨rfl, rfl, rfl⟩ := bg_run_get_eq_ok hget
  simp only [hf] at hrest
  obtain ⟨p, b₂, w₂, hpoll, hrest⟩ := bg_run_bind_eq_ok.1 hrest
  let s₁ : Session := { world := w₂, build := b₂, worker := s.worker }
  refine ⟨p, s₁, call_eq_ok_iff.2 ⟨hpoll, rfl⟩, ?_⟩
  cases p with
  | error e =>
    obtain ⟨hoe, rfl⟩ := call_refused (s := s₁) hrest hw
    exact ⟨rfl, rfl, .inl ⟨e, rfl, hoe, rfl⟩⟩
  | ok ready =>
    simp only at hrest
    split at hrest
    next hnative =>
      obtain ⟨v, b₃, w₃, hv, hpure⟩ := bg_run_bind_eq_ok.1 hrest
      obtain ⟨hcall, hb⟩ := bg_run_lift_eq_ok.1 hv
      subst hb
      obtain ⟨hov, rfl⟩ := call_refused (s := { s₁ with world := w₃ }) hpure hw
      exact ⟨rfl, rfl, .inr (.inl ⟨ready, rfl, hnative, v, hcall, hov⟩)⟩
    next hfallback =>
      obtain ⟨v, b₃, w₃, hv, hpure⟩ := bg_run_bind_eq_ok.1 hrest
      obtain ⟨hcall, hb⟩ := bg_run_lift_eq_ok.1 hv
      subst hb
      obtain ⟨hov, rfl⟩ := call_refused (s := { s₁ with world := w₃ }) hpure hw
      exact ⟨rfl, rfl, .inr (.inr ⟨ready, rfl, by simpa using hfallback, v, hcall, hov⟩)⟩

/-- Handing over the worker's result sets it in the build, and nothing else. -/
theorem call_bgFinish (s : Session) (r : Option FailureReport) :
    s.call (bgFinish r) = .ok ((), { s with build := { s.build with result := some r } }) := rfl

/-- Once started, a build refuses to start again, and nothing changes. -/
theorem call_bgCommit_started (h : s.build.started = true) :
    s.call bgCommit = .ok (.error Errors.tooLate, s) := by
  refine call_eq_ok_iff.2 ⟨?_, rfl⟩
  simp only [bgCommit, StateT.run_bind, StateT.run_get, StateT.run_pure, pure_bind, h, if_true]
  rfl

/-- A build none of whose functions has a body refuses to start as too early, and nothing
changes. -/
theorem call_bgCommit_early (hs : s.build.started = false)
    (hb : ∀ f ∈ s.build.fns, f.body = none) :
    s.call bgCommit = .ok (.error Errors.tooEarly, s) := by
  have hp : s.build.pending.isEmpty = true := by
    simpa [Background.pending, List.filter_eq_nil_iff] using hb
  refine call_eq_ok_iff.2 ⟨?_, rfl⟩
  simp only [bgCommit, StateT.run_bind, StateT.run_get, StateT.run_pure, pure_bind, hs, hp,
    Bool.false_eq_true, if_false, if_true]
  rfl

/-- A definition on a build that has started is too late, and nothing changes. -/
theorem call_bgDefine_started (h : s.build.started = true) (name : String) (sig : Signature)
    (fallback : Option CallbackSpec) :
    s.call (bgDefine name sig fallback) = .ok (.error Errors.tooLate, s) := by
  obtain ⟨ext, hd⟩ := call_bgDefine s name sig fallback
  rw [hd, Background.define_started h]

/-- A body for a function that has one, or for any function once the build has started, is
too late, and nothing changes. -/
theorem call_bgSub_late {fn body doc : String} {f : DynamicFn}
    (hf : s.build.fns.find? (·.name == fn) = some f)
    (h : f.body.isSome = true ∨ s.build.started = true) :
    s.call (bgSub fn body doc) = .ok (some (.error Errors.tooLate), s) := by
  rw [call_bgSub, Background.supply_late hf h]

/-- A call of a function the build does not have returns nothing, and nothing changes. -/
theorem call_bgInvoke_none {fn : String} {args : List HostValue}
    (hf : s.build.fns.find? (·.name == fn) = none) :
    s.call (bgInvoke fn args) = .ok (none, s) := by
  refine call_eq_ok_iff.2 ⟨?_, rfl⟩
  unfold bgInvoke
  refine bg_run_bind_eq_ok.2 ⟨s.build, s.build, s.world, rfl, ?_⟩
  simp only [hf]
  rfl

/-- A call of a defined function on a build that has failed, and not switched, returns the
failure, and nothing changes. -/
theorem call_bgInvoke_fatal {fn : String} {args : List HostValue} {f : DynamicFn}
    {e : FailureReport} (hf : s.build.fns.find? (·.name == fn) = some f)
    (hsw : s.build.switched = false) (he : s.build.fatal = some e) :
    s.call (bgInvoke fn args) = .ok (some (.error e), s) := by
  have hpoll : (bgPoll.run s.build).run s.world = .ok ((.error e, s.build), s.world) := by
    obtain ⟨name, h⟩ := call_bgPoll s
    rw [Background.poll_fatal hsw he] at h
    exact (call_eq_ok_iff.1 h).1
  refine call_eq_ok_iff.2 ⟨?_, rfl⟩
  unfold bgInvoke
  refine bg_run_bind_eq_ok.2 ⟨s.build, s.build, s.world, rfl, ?_⟩
  simp only [hf]
  exact bg_run_bind_eq_ok.2 ⟨_, _, _, hpoll, rfl⟩

/-- A start whose commit is refused is refused the same way, and nothing changes. -/
theorem call_bgStart_refused {e : FailureReport} (h : s.call bgCommit = .ok (.error e, s)) :
    s.call bgStart = .ok (.error e, s) := by
  obtain ⟨hrun, -⟩ := call_eq_ok_iff.1 h
  refine call_eq_ok_iff.2 ⟨?_, rfl⟩
  unfold bgStart
  exact bg_run_bind_eq_ok.2 ⟨_, _, _, hrun, rfl⟩

/-- Starting and waiting for the worker fails exactly as starting does, and then changes
nothing; when starting succeeds, the worker prepares the extension and hands its result over. -/
theorem call_bgStart {r : Except FailureReport Unit} {s'' : Session}
    (h : s.call bgStart = .ok (r, s'')) :
    ∃ c s', s.call bgCommit = .ok (c, s') ∧
      ((∃ e, c = .error e ∧ r = .error e ∧ s'' = s') ∨
       (c = .ok () ∧ r = .ok () ∧ ∃ res w, (prepare hostDepth).run s'.world = .ok (res, w) ∧
          { s' with world := w }.call (bgFinish (match res with | .ok () => none | .error e => some e)) =
            .ok ((), s''))) := by
  obtain ⟨hrun, hw⟩ := call_eq_ok_iff.1 h
  unfold bgStart at hrun
  obtain ⟨c, b₁, w₁, hc, hrest⟩ := bg_run_bind_eq_ok.1 hrun
  let s' : Session := { world := w₁, build := b₁, worker := s.worker }
  refine ⟨c, s', call_eq_ok_iff.2 ⟨hc, rfl⟩, ?_⟩
  cases c with
  | error e =>
    obtain ⟨hr, rfl⟩ := call_refused (s := s') hrest hw
    exact .inl ⟨e, rfl, hr, rfl⟩
  | ok u =>
    cases u
    obtain ⟨res, b₂, w₂, hres, hfinish⟩ := bg_run_bind_eq_ok.1 hrest
    obtain ⟨hprep, hb⟩ := bg_run_lift_eq_ok.1 hres
    subst hb
    obtain ⟨u', b₃, w₃, hfin, hpure⟩ := bg_run_bind_eq_ok.1 hfinish
    obtain ⟨hr, rfl⟩ := call_refused (s := { s' with world := w₃, build := b₃ }) hpure hw
    refine .inr ⟨rfl, hr, res, w₂, hprep, call_eq_ok_iff.2 ⟨?_, hw⟩⟩
    exact hfin

end Session

/-! ## Runs -/

namespace Session

/-- One step of a run: a call of the caller, or the worker finishing. The worker finishes once,
after the build has started; it owns the extension until then and leaves the world as it
likes, then hands over its result, none for success, with `bgFinish`. -/
inductive Step : Session → Session → Prop where
  | define {s s' : Session} {name : String} {sig : Signature} {fallback : Option CallbackSpec}
      {r : Except FailureReport Unit} : s.call (bgDefine name sig fallback) = .ok (r, s') →
      Step s s'
  | sub {s s' : Session} {fn body doc : String} {r : Option (Except FailureReport Unit)} :
      s.call (bgSub fn body doc) = .ok (r, s') → Step s s'
  | start {s s' : Session} {r : Except FailureReport Unit} : s.call bgCommit = .ok (r, s') →
      Step s s'
  | poll {s s' : Session} {r : Except FailureReport Bool} : s.call bgPoll = .ok (r, s') →
      Step s s'
  | invoke {s s' : Session} {fn : String} {args : List HostValue} {r : Option Outcome} :
      s.call (bgInvoke fn args) = .ok (r, s') → Step s s'
  | finish {s s' : Session} (w : World HostState) (r : Option FailureReport) :
      s.build.started = true → s.worker = none →
      { s with world := w }.call (bgFinish r) = .ok ((), s') → Step s { s' with worker := some r }

/-- The sessions a run reaches from a new build beside any world. -/
inductive Reachable : Session → Prop where
  | new (w : World HostState) : Reachable { world := w, build := {} }
  | step {s s' : Session} : Reachable s → Step s s' → Reachable s'

/-- What holds at every point of a run. -/
structure Invariant (s : Session) : Prop where
  /-- A switched build has started, has no failure, and its worker succeeded. -/
  switched : s.build.switched = true →
    s.build.started = true ∧ s.build.fatal = none ∧ s.worker = some none
  /-- A failure wraps the error the worker handed over. -/
  fatal : ∀ f, s.build.fatal = some f →
    ∃ name e, s.worker = some (some e) ∧ f = Errors.backgroundCompile name e
  /-- A result not yet taken is what the worker handed over, on a build that has neither
  switched nor failed. -/
  result : ∀ r, s.build.result = some r →
    s.worker = some r ∧ s.build.switched = false ∧ s.build.fatal = none
  /-- The worker finishes only after the build has started. -/
  worker : ∀ r, s.worker = some r → s.build.started = true
  /-- A function has a proxy exactly when the build has started and it had a body. -/
  proxy : ∀ f ∈ s.build.fns, f.proxy = (s.build.started && f.body.isSome)

variable {s s' : Session}

/-- The invariant speaks of the build and the worker only. -/
theorem Invariant.congr (h : s.Invariant) (hb : s'.build = s.build) (hw : s'.worker = s.worker) :
    s'.Invariant := by
  obtain ⟨h₁, h₂, h₃, h₄, h₅⟩ := h
  rw [← hb, ← hw] at *
  exact ⟨h₁, h₂, h₃, h₄, h₅⟩

/-- A step that leaves the worker, the switch, the failure and the result as they were, and
does not take back the start, keeps the invariant when it keeps the proxies right. -/
theorem Invariant.of_flags (h : s.Invariant) (hw : s'.worker = s.worker)
    (hs : s.build.started = true → s'.build.started = true)
    (hsw : s'.build.switched = s.build.switched) (hf : s'.build.fatal = s.build.fatal)
    (hr : s'.build.result = s.build.result)
    (hp : ∀ f ∈ s'.build.fns, f.proxy = (s'.build.started && f.body.isSome)) : s'.Invariant := by
  obtain ⟨h₁, h₂, h₃, h₄, -⟩ := h
  refine ⟨fun h' => ?_, fun f h' => ?_, fun r h' => ?_, fun r h' => ?_, hp⟩
  · obtain ⟨hs', hf', hw'⟩ := h₁ (hsw ▸ h')
    rw [hf, hw]
    exact ⟨hs hs', hf', hw'⟩
  · rw [hw]
    exact h₂ f (hf ▸ h')
  · rw [hw, hsw, hf]
    exact h₃ r (hr ▸ h')
  · exact hs (h₄ r (hw ▸ h'))

/-- Before the build has started, no function has a proxy. -/
theorem Invariant.proxy_false (h : s.Invariant) (hs : s.build.started = false) :
    ∀ f ∈ s.build.fns, f.proxy = false := by
  intro f hf
  simpa [hs] using h.proxy f hf

/-- A step that changes only the functions, before the build has started and giving none a
proxy, keeps the invariant. -/
theorem Invariant.of_fns {fns : List DynamicFn} (h : s.Invariant) (hw : s'.worker = s.worker)
    (hs : s.build.started = false) (hb : s'.build = { s.build with fns })
    (hp : ∀ f ∈ fns, f.proxy = false) : s'.Invariant := by
  refine h.of_flags hw (by rw [hb]; exact id) (by rw [hb]) (by rw [hb]) (by rw [hb]) ?_
  rw [hb]
  intro f hf
  simpa [hs] using hp f hf

/-! ### One step of the build -/

/-- Defining a function keeps the invariant. -/
theorem Invariant.define {ext : Except FailureReport Extension} {name : String} {sig : Signature}
    {fallback : Option CallbackSpec} (h : s.Invariant)
    (hb : s'.build = (s.build.define ext name sig fallback).2) (hw : s'.worker = s.worker) :
    s'.Invariant := by
  rcases @Background.define_cases s.build ext name sig fallback with hd | ⟨hs, f, hf, hd⟩
  · exact h.congr (hb.trans hd) hw
  · refine h.of_fns hw hs (hb.trans hd) fun g hg => ?_
    -- the new function comes without a proxy, like every other before the start
    rcases List.mem_append.1 hg with hg | hg
    · exact h.proxy_false hs g hg
    · rw [List.mem_singleton.1 hg]
      exact hf

/-- Supplying a body keeps the invariant. -/
theorem Invariant.supply {fn body doc : String} (h : s.Invariant)
    (hb : s'.build = (s.build.supply fn body doc).2) (hw : s'.worker = s.worker) :
    s'.Invariant := by
  rcases @Background.supply_cases s.build fn body doc with hd | ⟨hs, hd⟩
  · exact h.congr (hb.trans hd) hw
  · refine h.of_fns hw hs (hb.trans hd) fun g hg => ?_
    -- supplying a body gives no proxy
    have hg' : g.proxy ∈ s.build.fns.map (·.proxy) := by
      rw [← @Background.supplyBody_proxy fn body doc s.build.fns]
      exact List.mem_map_of_mem hg
    obtain ⟨f, hf, hfg⟩ := List.mem_map.1 hg'
    rw [← hfg]
    exact h.proxy_false hs f hf

/-- Committing before the start keeps the invariant. -/
theorem Invariant.commit (h : s.Invariant) (hs : s.build.started = false)
    (hb : s'.build = s.build.committed) (hw : s'.worker = s.worker) : s'.Invariant := by
  refine h.of_flags hw (fun _ => by rw [hb]; rfl) (by rw [hb]; rfl) (by rw [hb]; rfl)
    (by rw [hb]; rfl) ?_
  rw [hb]
  intro g hg
  obtain ⟨f, hf, rfl⟩ := List.mem_map.1 hg
  -- a function with a body gets its proxy; one without keeps none, as before the start
  by_cases hbody : f.body.isSome = true
  · simp [Background.committed, hbody]
  · simp [Background.committed, hbody, h.proxy_false hs f hf]

/-- Polling keeps the invariant. -/
theorem Invariant.poll {name : String} (h : s.Invariant) (hb : s'.build = (s.build.poll name).2)
    (hw : s'.worker = s.worker) : s'.Invariant := by
  rcases Background.poll_cases s.build name with hp | ⟨hsw, hf, hs, ⟨hr, hp⟩ | ⟨e, hr, hp⟩⟩
  · exact h.congr (hb.trans hp) hw
  · -- the worker succeeded: the build switches and the result is taken
    obtain ⟨hwr, -, -⟩ := h.result none hr
    rw [hp] at hb
    refine ⟨fun _ => ?_, fun f hf' => ?_, fun r hr' => ?_, fun _ _ => ?_, fun g hg => ?_⟩
    · rw [hb, hw]
      exact ⟨hs, hf, hwr⟩
    · simp [hb, hf] at hf'
    · simp [hb] at hr'
    · rw [hb]
      exact hs
    · rw [hb] at hg ⊢
      exact h.proxy g hg
  · -- the worker failed: the failure wraps its error and the result is taken
    obtain ⟨hwr, -, -⟩ := h.result (some e) hr
    rw [hp] at hb
    refine ⟨fun hsw' => ?_, fun f hf' => ?_, fun r hr' => ?_, fun _ _ => ?_, fun g hg => ?_⟩
    · simp [hb, hsw] at hsw'
    · simp only [hb, Option.some.injEq] at hf'
      subst hf'
      rw [hw]
      exact ⟨name, e, hwr, rfl⟩
    · simp [hb] at hr'
    · rw [hb]
      exact hs
    · rw [hb] at hg ⊢
      exact h.proxy g hg

/-- The worker finishing on a started build, before it had finished, keeps the invariant. -/
theorem Invariant.finish {r : Option FailureReport} (h : s.Invariant)
    (hs : s.build.started = true) (hnone : s.worker = none)
    (hb : s'.build = { s.build with result := some r }) (hw : s'.worker = some r) :
    s'.Invariant := by
  -- a worker that had not finished leaves the build neither switched nor failed
  have hsw : s.build.switched = false := by
    cases hsw : s.build.switched with
    | false => rfl
    | true =>
      have hw' := (h.switched hsw).2.2
      rw [hnone] at hw'
      cases hw'
  have hf : s.build.fatal = none := by
    cases hf : s.build.fatal with
    | none => rfl
    | some f =>
      obtain ⟨_, _, hw', -⟩ := h.fatal f hf
      rw [hnone] at hw'
      cases hw'
  refine ⟨fun h' => ?_, fun f h' => ?_, fun r' h' => ?_, fun _ _ => ?_, fun g hg => ?_⟩
  · simp [hb, hsw] at h'
  · simp [hb, hf] at h'
  · simp only [hb, Option.some.injEq] at h'
    subst h'
    rw [hw, hb]
    exact ⟨rfl, hsw, hf⟩
  · rw [hb]
    exact hs
  · rw [hb] at hg ⊢
    exact h.proxy g hg

end Session

namespace Background

/-- What one step of a run can do to the build: nothing, a definition, a body, the commit of a
build that had not started, or a poll. -/
inductive Step (b : Background) : Background → Prop where
  | stay : Step b b
  | define (ext : Except FailureReport Extension) (name : String) (sig : Signature)
      (fallback : Option CallbackSpec) : Step b (b.define ext name sig fallback).2
  | supply (fn body doc : String) : Step b (b.supply fn body doc).2
  | commit : b.started = false → Step b b.committed
  | poll (name : String) : Step b (b.poll name).2

/-- Every step keeps what the background held. -/
theorem Step.keeps {b b' : Background} (h : Step b b') : b.Keeps b' := by
  cases h with
  | stay => exact Keeps.refl b
  | define => exact define_keeps
  | supply => exact supply_keeps
  | commit => exact committed_keeps b
  | poll name => exact poll_keeps b name

/-- No step of the build sets its result. -/
theorem Step.result {b b' : Background} (h : Step b b') (hr : b.result = none) :
    b'.result = none := by
  cases h with
  | stay => exact hr
  | define ext name sig fallback =>
    rcases @define_cases b ext name sig fallback with hd | ⟨-, f, -, hd⟩ <;> rw [hd] <;> exact hr
  | supply fn body doc =>
    rcases @supply_cases b fn body doc with hd | ⟨-, hd⟩ <;> rw [hd] <;> exact hr
  | commit => exact hr
  | poll name =>
    rcases poll_cases b name with hp | ⟨-, -, -, ⟨-, hp⟩ | ⟨e, -, hp⟩⟩ <;> rw [hp]
    exact hr

end Background

namespace Session

variable {s s' s'' : Session}

/-- Every step of a run is a step of the build that leaves the worker as it was, or the worker
finishing on a build that has started: it hands its result over once. -/
theorem Step.cases_build (h : Step s s') :
    (s'.worker = s.worker ∧ Background.Step s.build s'.build) ∨
      (s.build.started = true ∧ s.worker = none ∧
        ∃ r, s'.worker = some r ∧ s'.build = { s.build with result := some r }) := by
  cases h with
  | @define _ name sig fallback _ h =>
    obtain ⟨ext, hd⟩ := call_bgDefine s name sig fallback
    rw [hd] at h
    obtain ⟨-, rfl⟩ := Prod.mk.inj (Except.ok.inj h)
    exact .inl ⟨rfl, .define ext name sig fallback⟩
  | @sub _ fn body doc _ h =>
    rw [call_bgSub] at h
    obtain ⟨-, rfl⟩ := Prod.mk.inj (Except.ok.inj h)
    exact .inl ⟨rfl, .supply fn body doc⟩
  | start h =>
    rcases call_bgCommit h with ⟨e, -, rfl⟩ | ⟨-, hs, hb, hw⟩
    · exact .inl ⟨rfl, .stay⟩
    · refine .inl ⟨hw, ?_⟩
      rw [hb]
      exact .commit hs
  | poll h =>
    obtain ⟨name, hp⟩ := call_bgPoll s
    rw [hp] at h
    obtain ⟨-, rfl⟩ := Prod.mk.inj (Except.ok.inj h)
    exact .inl ⟨rfl, .poll name⟩
  | @invoke _ fn args _ h =>
    cases hf : s.build.fns.find? (·.name == fn) with
    | none =>
      rw [call_bgInvoke_none hf] at h
      obtain ⟨-, rfl⟩ := Prod.mk.inj (Except.ok.inj h)
      exact .inl ⟨rfl, .stay⟩
    | some f =>
      -- only the poll changes the build
      obtain ⟨p, s₁, hp, hb, hw, -⟩ := call_bgInvoke hf h
      obtain ⟨name, hpoll⟩ := call_bgPoll s
      rw [hpoll] at hp
      obtain ⟨-, rfl⟩ := Prod.mk.inj (Except.ok.inj hp)
      refine .inl ⟨hw, ?_⟩
      rw [hb]
      exact .poll name
  | finish w r hs hnone h =>
    rw [call_bgFinish] at h
    obtain ⟨-, rfl⟩ := Prod.mk.inj (Except.ok.inj h)
    exact .inr ⟨hs, hnone, r, rfl, rfl⟩

/-- A step of the build that leaves the worker as it was keeps the invariant. -/
theorem Invariant.build_step (h : s.Invariant) (hb : Background.Step s.build s'.build)
    (hw : s'.worker = s.worker) : s'.Invariant := by
  obtain ⟨w, b, g⟩ := s
  obtain ⟨w', b', g'⟩ := s'
  dsimp only at hb hw
  cases hb with
  | stay => exact h.congr rfl hw
  | define => exact h.define rfl hw
  | supply => exact h.supply rfl hw
  | commit hs => exact h.commit hs rfl hw
  | poll => exact h.poll rfl hw

/-- Every step keeps the invariant. -/
theorem Step.invariant (h : Step s s') (hi : s.Invariant) : s'.Invariant := by
  rcases h.cases_build with ⟨hw, hb⟩ | ⟨hs, hnone, r, hw, hb⟩
  · exact hi.build_step hb hw
  · exact hi.finish hs hnone hb hw

/-- Every reachable session keeps the invariant, by induction on the run. -/
theorem Reachable.invariant (h : Reachable s) : s.Invariant := by
  induction h with
  | new w =>
    exact ⟨fun h => (nomatch h), fun _ h => (nomatch h), fun _ h => (nomatch h),
      fun _ h => (nomatch h), fun _ h => (nomatch h)⟩
  | step _ hstep ih => exact hstep.invariant ih

/-! ### What runs keep -/

/-- What a run keeps: all the build keeps, and what the worker handed over. -/
structure Keeps (s s' : Session) : Prop where
  build : s.build.Keeps s'.build
  worker : ∀ r, s.worker = some r → s'.worker = some r

/-- Every session keeps itself. -/
theorem Keeps.refl (s : Session) : s.Keeps s := ⟨Background.Keeps.refl s.build, fun _ => id⟩

/-- Keeping composes. -/
theorem Keeps.trans (h₁ : s.Keeps s') (h₂ : s'.Keeps s'') : s.Keeps s'' :=
  ⟨h₁.build.trans h₂.build, fun r h => h₂.worker r (h₁.worker r h)⟩

/-- Every step of a session keeps what it held. -/
theorem Step.keeps (h : Step s s') : s.Keeps s' := by
  rcases h.cases_build with ⟨hw, hb⟩ | ⟨-, hnone, r, hw, hb⟩
  · exact ⟨hb.keeps, fun r h => hw ▸ h⟩
  · -- the worker had not finished, and handing its result over changes nothing else kept
    refine ⟨?_, fun r' h => by rw [hnone] at h; cases h⟩
    rw [hb]
    exact ⟨id, id, fun _ => id, s.build.fns, [], by simp, DynamicFn.forall₂_keeps_refl _⟩

/-- A run of steps keeps what the session held. -/
theorem keeps_of_run (h : Relation.ReflTransGen Step s s') : s.Keeps s' := by
  induction h with
  | refl => exact Keeps.refl s
  | tail _ hstep ih => exact ih.trans hstep.keeps

/-- Once the worker has finished and its result has been taken, no run sets it again. -/
theorem taken_of_run (h : Relation.ReflTransGen Step s s') (hg : s.worker.isSome = true)
    (hr : s.build.result = none) : s'.worker.isSome = true ∧ s'.build.result = none := by
  induction h with
  | refl => exact ⟨hg, hr⟩
  | tail _ hstep ih =>
    obtain ⟨hg', hr'⟩ := ih
    rcases hstep.cases_build with ⟨hw, hb⟩ | ⟨-, hnone, -⟩
    · exact ⟨hw ▸ hg', hb.result hr'⟩
    · rw [hnone] at hg'
      cases hg'

/-- Starting and waiting for the worker, as the caller does, is a run: the commit, then the worker
finishing with what preparing the extension returned. -/
theorem Reachable.bgStart {r : Except FailureReport Unit} (h : Reachable s)
    (hs : s.call bgStart = .ok (r, s')) : ∃ g, Reachable { s' with worker := g } := by
  obtain ⟨c, s₁, hc, ⟨e, rfl, -, hs'⟩ | ⟨rfl, -, res, w, -, hfin⟩⟩ := call_bgStart hs
  · rcases call_bgCommit hc with ⟨_, -, hs₁⟩ | ⟨hok, -⟩
    · rw [hs', hs₁]
      exact ⟨s.worker, h⟩
    · cases hok
  · rcases call_bgCommit hc with ⟨_, hok, -⟩ | ⟨-, hs₀, hb, hw⟩
    · cases hok
    -- the worker cannot have finished on a build that had not started
    have hnone : s₁.worker = none := by
      rw [hw]
      cases hg : s.worker with
      | none => rfl
      | some g =>
        have := h.invariant.worker g hg
        rw [hs₀] at this
        cases this
    have hstarted : s₁.build.started = true := by rw [hb]; rfl
    exact ⟨_, .step (.step h (.start hc)) (.finish w _ hstarted hnone hfin)⟩

/-! ### Starting, and calling a function -/

/-- A start that fails changes nothing. -/
theorem call_bgStart_error {e : FailureReport} (h : s.call bgStart = .ok (.error e, s')) :
    s' = s := by
  obtain ⟨c, s₁, hc, ⟨e', rfl, -, rfl⟩ | ⟨-, hr, -⟩⟩ := call_bgStart h
  · rcases call_bgCommit hc with ⟨_, -, rfl⟩ | ⟨hok, -⟩
    · rfl
    · cases hok
  · cases hr

/-- A build that has failed has not switched. -/
theorem Invariant.not_switched {e : FailureReport} (h : s.Invariant) (he : s.build.fatal = some e) :
    s.build.switched = false := by
  cases hsw : s.build.switched with
  | false => rfl
  | true =>
    rw [(h.switched hsw).2.1] at he
    cases he

/-- A call of a defined function on a build that has not failed polls, then returns the failure
the poll finds, or the native function's result exactly when the build has switched and the
function had a body, or else the fallback's. -/
theorem Invariant.invoke {fn : String} {args : List HostValue} {f : DynamicFn} {o : Option Outcome}
    (h : s.Invariant) (hf : s.build.fns.find? (·.name == fn) = some f)
    (hfatal : s.build.fatal = none) (hcall : s.call (bgInvoke fn args) = .ok (o, s')) :
    ∃ p s₁, s.call bgPoll = .ok (p, s₁) ∧ s'.build = s₁.build ∧
      ((∃ e, s₁.build.fatal = some e ∧ o = some (.error e) ∧ s' = s₁) ∨
       (s₁.build.fatal = none ∧ (s₁.build.switched && f.body.isSome) = true ∧
         ∃ v, (invokeProxy fn args).run s₁.world = .ok (v, s'.world) ∧
           o = some (Outcome.ofResult v)) ∨
       (s₁.build.fatal = none ∧ (s₁.build.switched && f.body.isSome) = false ∧
         ∃ v, (runSpec hostDepth f.fallback args).run s₁.world = .ok (v, s'.world) ∧
           o = some v)) := by
  obtain ⟨p, s₁, hp, hb, -, hcases⟩ := call_bgInvoke hf hcall
  obtain ⟨name, hpoll⟩ := call_bgPoll s
  rw [hpoll] at hp
  obtain ⟨hp₁, rfl⟩ := Prod.mk.inj (Except.ok.inj hp)
  subst hp₁
  -- once the poll reports ready, the build has switched, so it had started, and a function has a
  -- proxy exactly when it had a body
  have hready : ∀ ready, (s.build.poll name).1 = .ok ready →
      (ready && f.proxy) = ((s.build.poll name).2.switched && f.body.isSome) := by
    intro ready hr
    rw [Background.poll_ready hr, h.proxy f (List.mem_of_find?_eq_some hf)]
    cases hsw : (s.build.poll name).2.switched with
    | false => rfl
    | true =>
      have hi : Invariant { s with build := (s.build.poll name).2 } := h.poll rfl rfl
      have hs := (hi.switched hsw).1
      rw [Background.poll_started] at hs
      rw [hs]
      rfl
  refine ⟨_, _, hpoll, hb, ?_⟩
  rcases hcases with ⟨e, he, ho, rfl⟩ | ⟨ready, hr, hn, v, hv, ho⟩ | ⟨ready, hr, hn, v, hv, ho⟩
  · exact .inl ⟨e, Background.poll_error he, ho, rfl⟩
  · exact .inr (.inl ⟨(Background.poll_ok hr).trans hfatal, (hready ready hr).symm.trans hn, v, hv, ho⟩)
  · exact .inr (.inr ⟨(Background.poll_ok hr).trans hfatal, (hready ready hr).symm.trans hn, v, hv, ho⟩)

/-! ## Guarantees -/

/-- What every session a run reaches guarantees. -/
structure Guarantees (s : Session) : Prop where
  /-- The build switches only once started, without a failure and after the worker succeeded,
  and a failure wraps the worker's error. -/
  invariant : s.Invariant
  /-- Along every run from here, being started or switched, the failure and every function's
  body stay, and what the worker handed over stays. -/
  keeps : ∀ s', Relation.ReflTransGen Step s s' → s.Keeps s'
  /-- Once the worker has finished and its result has been taken, no run sets it again. -/
  taken : s.worker.isSome = true → s.build.result = none →
    ∀ s', Relation.ReflTransGen Step s s' → s'.build.result = none
  /-- Once started, a definition is too late and changes nothing. -/
  define_late : s.build.started = true → ∀ name sig fallback,
    s.call (bgDefine name sig fallback) = .ok (.error Errors.tooLate, s)
  /-- A second body, or any body once started, is too late and changes nothing. -/
  sub_late : ∀ fn body doc f, s.build.fns.find? (·.name == fn) = some f →
    f.body.isSome = true ∨ s.build.started = true →
    s.call (bgSub fn body doc) = .ok (some (.error Errors.tooLate), s)
  /-- Once started, a start is too late and changes nothing. -/
  start_late : s.build.started = true → s.call bgStart = .ok (.error Errors.tooLate, s)
  /-- With no body at all, a start is too early and changes nothing. -/
  start_early : s.build.started = false → (∀ f ∈ s.build.fns, f.body = none) →
    s.call bgStart = .ok (.error Errors.tooEarly, s)
  /-- A start that fails changes nothing: the build has not started and the extension keeps
  its units. -/
  start_refused : ∀ e s', s.call bgStart = .ok (.error e, s') → s' = s
  /-- Once the failure has been seen, every call of a defined function returns it, and nothing
  changes. -/
  invoke_fatal : ∀ fn args f e, s.build.fns.find? (·.name == fn) = some f →
    s.build.fatal = some e → s.call (bgInvoke fn args) = .ok (some (.error e), s)
  /-- Before, a call of a defined function returns the failure its poll finds, or the native
  function's result exactly when the build has switched and the function had a body, or else
  the fallback's. -/
  invoke : ∀ fn args f o s', s.build.fns.find? (·.name == fn) = some f →
    s.build.fatal = none → s.call (bgInvoke fn args) = .ok (o, s') →
    ∃ p s₁, s.call bgPoll = .ok (p, s₁) ∧ s'.build = s₁.build ∧
      ((∃ e, s₁.build.fatal = some e ∧ o = some (.error e) ∧ s' = s₁) ∨
       (s₁.build.fatal = none ∧ (s₁.build.switched && f.body.isSome) = true ∧
         ∃ v, (invokeProxy fn args).run s₁.world = .ok (v, s'.world) ∧
           o = some (Outcome.ofResult v)) ∨
       (s₁.build.fatal = none ∧ (s₁.build.switched && f.body.isSome) = false ∧
         ∃ v, (runSpec hostDepth f.fallback args).run s₁.world = .ok (v, s'.world) ∧
           o = some v))

/-- Every session a run reaches, with the worker finishing at any point after the start, has the
guarantees. -/
theorem background_guarantees (h : Reachable s) : Guarantees s where
  invariant := h.invariant
  keeps _ := keeps_of_run
  taken hg hr _ hrun := (taken_of_run hrun hg hr).2
  define_late hs := call_bgDefine_started hs
  sub_late _ _ _ _ hf hlate := call_bgSub_late hf hlate
  start_late hs := call_bgStart_refused (call_bgCommit_started hs)
  start_early hs hb := call_bgStart_refused (call_bgCommit_early hs hb)
  start_refused _ _ := call_bgStart_error
  invoke_fatal _ _ _ _ hf he := call_bgInvoke_fatal hf (h.invariant.not_switched he) he
  invoke _ _ _ _ _ hf hfatal := h.invariant.invoke hf hfatal

/-- A new build beside an empty world is reachable, and so has the guarantees. -/
theorem background_guarantees_new :
    Reachable { world := { images := #[], host := {} }, build := {} } ∧
      Guarantees { world := { images := #[], host := {} }, build := {} } :=
  ⟨.new _, background_guarantees (.new _)⟩

end Session

end InlineC.Host
