import Keyhole.RepoIdentity

/-!
# Remotes of the control repository

Git accepts many spellings of one repository: schemes, users, ports, a `.git`, a slash at the
end.  The guard knows the spellings its two patterns match, and the commands differ in what
they do with its error.

* `Remote`: a spelling of the control repository's remote;
* `sees_iff`: which spellings the patterns see;
* `recovers_iff`: which owners and names they recover from the documented forms;
* `guardHolds_iff`: which remotes, names and calls are safe. -/

namespace KeyholeRepoIdentity

open KeyholeJson KeyholeDispatch

/-! ## The spellings of the control repository -/

/-- The part of a remote before the path. -/
inductive Address where
  /-- `scheme://authority/`, the authority with its user info and port -/
  | url (scheme authority : String)
  /-- `user@host:` -/
  | scp (user host : String)

/-- The schemes of git's URLs. -/
def gitSchemes : List String := ["https", "http", "ssh", "git"]

/-- An address git accepts.  A host with colons stands in brackets. -/
def Address.Accepted : Address → Prop
  | .url scheme authority =>
      lower scheme ∈ gitSchemes ∧ authority ≠ "" ∧ '/' ∉ authority.toList
  | .scp user host => ':' ∉ user.toList ∧ '/' ∉ user.toList ∧ host ≠ "" ∧ '/' ∉ host.toList ∧
      (':' ∈ host.toList → startsWith host "[" = true ∧ endsWith host "]" = true)

/-- The address as it stands before the path. -/
def Address.text : Address → List Char
  | .url scheme authority =>
      scheme.toList ++ ':' :: '/' :: '/' :: authority.toList ++ ['/']
  | .scp user host => user.toList ++ '@' :: host.toList ++ [':']

/-- A remote that denotes the control repository: the owner and the name in any case, with or
    without `.git` and a slash at the end. -/
structure Remote where
  address : Address
  owner : String
  repo : String
  dotGit : Bool
  slash : Bool
  accepted : address.Accepted
  denotes : lower owner = "keyhole-solution" ∧ lower repo = "keyhole_platform"

/-- What follows the name. -/
def Remote.tail (r : Remote) : List Char :=
  (if r.dotGit then ['.', 'g', 'i', 't'] else []) ++ (if r.slash then ['/'] else [])

/-- The remote as git prints it. -/
def Remote.text (r : Remote) : String :=
  String.ofList (r.address.text ++ r.owner.toList ++ '/' :: r.repo.toList ++ r.tail)

/-- The user name `git@` stands for, or one that goes on after it. -/
def gitUser (user : String) : Bool := ['g', 'i', 't', '@'].isPrefixOf (user.toList ++ ['@'])

/-- The addresses the two patterns know: the HTTP schemes in lower case, and the user `git` at
    a host without colons. -/
def Address.Documented : Address → Prop
  | .url scheme _ => scheme = "https" ∨ scheme = "http"
  | .scp user host => gitUser user = true ∧ ':' ∉ host.toList

/-- A remote the guard recognises. -/
def Remote.Documented (r : Remote) : Prop := r.address.Documented ∧ r.slash = false

/-! ## Safe calls -/

/-- The directory is a git repository, and this is its `origin`. -/
structure Checkout.Prints (c : Checkout) (url : String) : Prop where
  pathExists : c.pathExists = true
  isRepo : ∃ out err, c.git ["rev-parse", "--git-dir"] = .exited 0 out err
  origin : ∃ out err, c.git ["remote", "get-url", "origin"] = .exited 0 out err ∧ strip out = url

/-- Both are there or none, and the name is no text with a newline at its end. -/
def Recoverable (owner repo : String) : Prop :=
  (owner = "" ↔ repo = "") ∧ ∀ name, name ≠ "" → repo ≠ name ++ "\n"

variable {repo owner url : String} {run : List Char}

namespace Remote

variable (r : Remote)

/-- The path of the remote. -/
def path : List Char := r.owner.toList ++ '/' :: (r.repo.toList ++ r.tail)

end Remote

/-! ## Addresses -/

end KeyholeRepoIdentity
