import ApiManger.Account.AuthDetermined
import ApiManger.Interleaving.RelyGuarantee

/-!
# The context resolver

`AccountContextResolver` caches what its providers answer. A call of `resolve` looks
the context up and writes it back in two locked blocks and asks the provider between
them, so an invalidation may come in between: the call then puts a context into the
cache that the invalidation was meant to remove. `moment` orders the starts of calls,
the calls of providers and the invalidations of a run; no code reads it.
-/

namespace ApiManger.Account
open Python Store Collection Interleaving

/-! ## The state -/

/-- A registered provider: its `provider_id`, and which object it is. -/
structure Provider where
  providerId : String
  object : ℕ

/-- What an invalidation removes: the key of `invalidate(reference)`, what `invalidate(provider_id=…,
context_ref=…)` asks for, or everything of the provider of `register(provider)`. -/
inductive Coverage where
  | key (key : CacheKey)
  | fields (providerId contextRef : String)
  | provider (providerId : String)

def Coverage.covers : Coverage → CacheKey → Bool
  | .key removed, k => k == removed
  | .fields providerId contextRef, k =>
    (providerId == "" || k.providerId == providerId) && (contextRef == "" || k.contextRef == contextRef)
  | .provider providerId, k => k.providerId == providerId

/-- An item of `_cache`, with the moment its provider was asked. -/
structure CacheEntry where
  key : CacheKey
  until_ : Timestamp
  context : AccountContext
  began : ℕ

/-- An invalidation that took place. -/
structure Invalidation where
  coverage : Coverage
  moment : ℕ
  time : Timestamp

/-- A context that was returned: to a call that started at `asked`, from a provider asked at `began`. -/
structure Answer where
  key : CacheKey
  asked : ℕ
  began : ℕ
  context : AccountContext

/-- `AccountContextResolver`, the clock, and the history of the run. -/
structure ResolverState where
  clock : Timestamp
  cacheSeconds : Int
  providers : Mapping Provider
  cache : List CacheEntry := []
  moment : ℕ := 0
  invalidated : List Invalidation := []
  answered : List Answer := []

/-- `max(0, min(300, int(cache_seconds)))`. -/
def clampedSeconds (cacheSeconds : Int) : Int := max 0 (min 300 cacheSeconds)

/-- `__init__`, at the time `clock`. -/
def ResolverState.new (providers : Mapping Provider) (cacheSeconds : Int) (clock : Timestamp) : ResolverState :=
  { clock := clock, cacheSeconds := clampedSeconds cacheSeconds, providers := providers }

namespace ResolverState

variable (s : ResolverState)

/-- The cache without what the invalidation covers. -/
def invalidate (coverage : Coverage) : ResolverState :=
  { s with
    cache := s.cache.filter fun e => !coverage.covers e.key
    moment := s.moment + 1
    invalidated := ⟨coverage, s.moment, s.clock⟩ :: s.invalidated }

/-- `_providers[provider.provider_id] = provider`, and what it had answered is dropped. -/
def register (p : Provider) : ResolverState :=
  { s.invalidate (.provider p.providerId) with providers := s.providers.set p.providerId p }

/-- `_cache.pop(key, None)`. -/
def pop (key : CacheKey) : ResolverState :=
  { s with cache := s.cache.filter fun e => !(e.key == key) }

/-- How long a context that was asked for at `now` is kept. -/
def cacheUntil (now : Timestamp) (context : AccountContext) : Timestamp :=
  match context.expiresAt with
  | some expiry => min (now + s.cacheSeconds) expiry
  | none => now + s.cacheSeconds

/-- `_cache[key] = (cache_until, context)`. -/
def writeBack (key : CacheKey) (now : Timestamp) (context : AccountContext) (began : ℕ) :
    ResolverState :=
  { s with cache := ⟨key, s.cacheUntil now context, context, began⟩ :: (s.pop key).cache }

end ResolverState

/-! ## The operations -/

/-- What the first locked block of `resolve` comes to. -/
inductive Looked where
  | hit (context : AccountContext) (began : ℕ)
  | miss (provider : Option Provider)

/-- The atomic steps: the clock, the locked blocks, the call of a provider, and the return of a context. -/
inductive ResolverOp where
  | utcnow
  | lookUp (reference : AccountContextRef) (host : String) (minValiditySeconds : Int) (now : Timestamp)
  | callProvider (provider : Provider) (reference : AccountContextRef)
  | writeBack (key : CacheKey) (now : Timestamp) (context : AccountContext) (began : ℕ)
  | register (provider : Provider)
  | invalidate (coverage : Coverage)
  | answer (a : Answer)

abbrev resolverSignature : Signature where
  Op := ResolverOp
  Ret
    | .utcnow => Timestamp
    | .lookUp .. => Looked
    | .callProvider .. => AccountContext × ℕ
    | .writeBack .. | .register _ | .answer _ => Unit
    | .invalidate _ => ℕ
  Err := PyError

/-- A call that a thread makes. -/
inductive ResolverCall where
  | resolve (reference : AccountContextRef) (host : String) (minValiditySeconds : Int)
  | register (provider : Provider)
  | invalidate (reference : Option AccountContextRef) (providerId contextRef : String)

/-- What comes from outside: the calls, what a provider answers, and time passing. -/
inductive ResolverInput where
  | call (c : ResolverCall)
  | outcome (x : Except PyError AccountContext)
  | pass (seconds : ℕ)

/-- The first locked block of `resolve`. -/
def lookUp (s : ResolverState) (ref : AccountContextRef) (host : String) (min : Int) (now : Timestamp) :
    Except PyError Looked × ResolverState :=
  let missed := Except.ok (Looked.miss (s.providers.get? ref.providerId))
  match lookup CacheEntry.key s.cache ref.key with
  | none => (missed, s)
  | some e =>
    if now < e.until_ then match e.context.validate ref host min now with
      | .ok c => (.ok (.hit c e.began), s)
      | .error err => if err = contextExpired then (missed, s.pop ref.key) else (.error err, s)
    else (missed, s)

/-- One operation. -/
def execResolver (o : ResolverOp) (i : ResolverInput) (s : ResolverState) :
    Option (Except PyError (resolverSignature.Ret o) × ResolverState) :=
  match o with
  | .utcnow => some (.ok s.clock, s)
  | .lookUp ref host min now => some (lookUp s ref host min now)
  | .callProvider _ _ => match i with
    | .outcome x => some (x.map fun c => (c, s.moment), { s with moment := s.moment + 1 })
    | _ => none
  | .writeBack key now context began => some (.ok (), s.writeBack key now context began)
  | .register p => some (.ok (), s.register p)
  | .invalidate coverage =>
    some (.ok (s.cache.length - (s.invalidate coverage).cache.length), s.invalidate coverage)
  | .answer a => some (.ok (), { s with answered := a :: s.answered })

/-! ## The calls -/

/-- `resolve`, of a call that started at the moment `asked`. -/
def resolveContext (asked : ℕ) (ref : AccountContextRef) (host : String) (min : Int) :
    Prog resolverSignature Unit := do
  let key ← Prog.ofExcept (S := resolverSignature) ref.cacheKey
  let now ← Prog.perform (S := resolverSignature) .utcnow
  match ← Prog.perform (S := resolverSignature) (.lookUp ref host min now) with
  | .hit context began => Prog.perform (S := resolverSignature) (.answer ⟨key, asked, began, context⟩)
  | .miss none => Prog.raise contextUnavailable
  | .miss (some provider) =>
    let found ← Prog.perform (S := resolverSignature) (.callProvider provider ref)
    let context ← Prog.ofExcept (S := resolverSignature) (found.1.validate ref host min now)
    Prog.perform (S := resolverSignature) (.writeBack key now context found.2)
    Prog.perform (S := resolverSignature) (.answer ⟨key, asked, found.2, context⟩)

/-- `register`. -/
def registerProvider (p : Provider) : Prog resolverSignature Unit :=
  if p.providerId == "" then .raise (.valueError "account context provider_id is required")
  else Prog.perform (S := resolverSignature) (.register p)

/-- `invalidate`. -/
def invalidateContexts (reference : Option AccountContextRef) (providerId contextRef : String) :
    Prog resolverSignature Unit :=
  match reference with
  | some ref => do
    let key ← Prog.ofExcept (S := resolverSignature) ref.cacheKey
    let _ ← Prog.perform (S := resolverSignature) (.invalidate (.key key))
    Prog.ret ()
  | none => do
    let _ ← Prog.perform (S := resolverSignature) (.invalidate (.fields providerId contextRef))
    Prog.ret ()

def ResolverCall.code (asked : ℕ) : ResolverCall → Prog resolverSignature Unit
  | .resolve ref host min => resolveContext asked ref host min
  | .register p => registerProvider p
  | .invalidate reference providerId contextRef => invalidateContexts reference providerId contextRef

/-- Several threads on one resolver. -/
abbrev resolverMachine : Machine resolverSignature where
  State := ResolverState
  Tid := ℕ
  Input := ResolverInput
  exec _ := execResolver
  start _ i s := match i with
    | .call c => some (c.code s.moment, { s with moment := s.moment + 1 })
    | _ => none
  environment i s := match i with
    | .pass seconds => some { s with clock := s.clock + seconds }
    | _ => none

/-! ## The property -/

/-- No context that was returned comes from a provider call before an invalidation that covers it and
had taken place when its call started. -/
def NoStaleAnswer (s : ResolverState) : Prop :=
  ∀ a ∈ s.answered, ∀ v ∈ s.invalidated, v.coverage.covers a.key = true → v.moment < a.asked → v.moment < a.began

/-- A context is written back only when every invalidation of its key came before its provider was
asked, or when it will not be kept beyond the time of that invalidation. -/
def freshWrites : Guard resolverMachine where
  start _ _ _ := true
  op
    | _, .writeBack key now context began, _, s => s.invalidated.all fun v =>
      !v.coverage.covers key || decide (v.moment < began) || decide (s.cacheUntil now context ≤ v.time)
    | _, _, _, _ => true

end ApiManger.Account
