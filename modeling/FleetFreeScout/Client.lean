import FleetFreeScout.Fleet
import FleetFreeScout.Strings

namespace FleetFreeScout.Externalsvc

/-- net/url.URL, with the two fields NewFreeScoutClient checks. -/
structure URL where
  scheme : String
  host : String
deriving DecidableEq, Repr

structure FreeScoutOptions where
  url : String
  apiToken : String
  mailboxID : Int
  customerEmail : String
  assignTo : Int
deriving DecidableEq, Repr

/-- A FreeScout client. `addr` is the identity of the allocated struct, so two clients
are the same pointer exactly when they are equal; the http.Client is not modelled. -/
structure FreeScout where
  addr : Nat
  opts : FreeScoutOptions
deriving DecidableEq, Repr

/-- The options NewFreeScoutClient stores: the given ones with trailing '/' trimmed. -/
def FreeScoutOptions.cleaned (opts : FreeScoutOptions) : FreeScoutOptions :=
  { opts with url := trimRight opts.url "/" }

section

variable (urlParse : String → Except String URL)

def newFreeScoutClient (addr : Nat) : Option FreeScoutOptions → Except String FreeScout
  | none => .error "missing FreeScout options"
  | some opts =>
    if opts.url = "" then .error "missing FreeScout URL" else
    match urlParse opts.url with
    | .error err => .error err
    | .ok parsedURL =>
      if parsedURL.scheme = "" ∨ parsedURL.host = "" then .error "invalid FreeScout URL"
      else .ok ⟨addr, opts.cleaned⟩

theorem newFreeScoutClient_eq_ok {addr : Nat} {opts : FreeScoutOptions} {cli : FreeScout} :
    newFreeScoutClient urlParse addr (some opts) = .ok cli ↔
      opts.url ≠ "" ∧ (∃ u, urlParse opts.url = .ok u ∧ u.scheme ≠ "" ∧ u.host ≠ "") ∧
        cli = ⟨addr, opts.cleaned⟩ := by
  simp only [newFreeScoutClient]
  split
  next he => simp [he]
  next he =>
    split
    next err hp => simp [hp]
    next u hp =>
      by_cases hs : u.scheme = "" <;> by_cases hh : u.host = "" <;> simp [he, hp, hs, hh, eq_comm (a := cli)]

theorem newFreeScoutClient_opts {addr : Nat} {opts : FreeScoutOptions} {cli : FreeScout}
    (h : newFreeScoutClient urlParse addr (some opts) = .ok cli) :
    cli = ⟨addr, opts.cleaned⟩ :=
  ((newFreeScoutClient_eq_ok urlParse).mp h).2.2

end

def FreeScout.freeScoutConfigMatches (f : FreeScout) (opts : FreeScoutOptions) : Bool :=
  f.opts = opts

@[simp] theorem freeScoutConfigMatches_eq_true {f : FreeScout} {opts : FreeScoutOptions} :
    f.freeScoutConfigMatches opts = true ↔ f.opts = opts := by
  simp [FreeScout.freeScoutConfigMatches]

@[simp] theorem cleaned_cleaned (opts : FreeScoutOptions) :
    opts.cleaned.cleaned = opts.cleaned := by
  simp [FreeScoutOptions.cleaned, trimRight_idempotent]

/-- A client matches the options it was built from only when they were already clean:
the comparison is against the stored, trimmed options. -/
theorem newFreeScoutClient_matches_iff {urlParse : String → Except String URL} {addr : Nat}
    {opts : FreeScoutOptions} {cli : FreeScout}
    (h : newFreeScoutClient urlParse addr (some opts) = .ok cli) :
    cli.freeScoutConfigMatches opts = true ↔ opts.cleaned = opts := by
  simp [newFreeScoutClient_opts urlParse h]

end FleetFreeScout.Externalsvc
