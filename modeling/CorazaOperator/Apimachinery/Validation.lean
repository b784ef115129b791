import Mathlib.Data.List.Basic

/-!
# Object names

`validation.IsDNS1123Subdomain`, the rule the API server applies to the name of a custom resource
it is asked to create (`NameIsDNSSubdomain`): at most `253` characters, matching
`[a-z0-9]([-a-z0-9]*[a-z0-9])?(\.[a-z0-9]([-a-z0-9]*[a-z0-9])?)*`. The pattern is scanned left to
right by `SubdomainScan`, with one state for each place the pattern can be in, so a name is
checked by evaluation.

The Go code measures the length in bytes and this model in characters. The two agree on every
value that matches the pattern, because such a value is ASCII, and a value that does not match is
refused either way.

The Engine name rests on `dns1123Subdomain_append`: put a prefix that ends inside a label, after a
`-`, in front of a subdomain. Every rule of the pattern still holds, and only the length can break.
-/

namespace CorazaOperator.Validation

def DNS1123SubdomainMaxLength : Nat := 253

def dns1123LabelFmt : String := "[a-z0-9]([-a-z0-9]*[a-z0-9])?"

def dns1123SubdomainFmt : String := dns1123LabelFmt ++ "(\\." ++ dns1123LabelFmt ++ ")*"

def dns1123SubdomainErrorMsg : String :=
  "a lowercase RFC 1123 subdomain must consist of lower case alphanumeric characters, '-' or '.', " ++
    "and must start and end with an alphanumeric character"

/-- `MaxLenError`. -/
def maxLenError (length : Nat) : String :=
  "must be no more than " ++ toString length ++ " characters"

/-- `RegexError`: the message, the examples if any, and the pattern. -/
def regexError (msg fmt : String) (examples : List String) : String :=
  match examples with
  | [] => msg ++ " (regex used for validation is '" ++ fmt ++ "')"
  | _ =>
    msg ++ " (e.g. " ++ " or ".intercalate (examples.map fun e => "'" ++ e ++ "', ") ++
      "regex used for validation is '" ++ fmt ++ "')"

/-- `[a-z0-9]`. -/
def isAlphanumeric (c : Char) : Bool := c.isLower || c.isDigit

/-- How far a left-to-right scan against `dns1123SubdomainFmt` has got: at the start of a label,
after an alphanumeric, after a `-` inside a label, or off the pattern for good. -/
inductive SubdomainScan
  | labelStart
  | alphanumeric
  | hyphen
  | failed
deriving DecidableEq, Repr

namespace SubdomainScan

/-- One character. A label opens with an alphanumeric and goes on with alphanumerics and `-`. A
`.` closes a label only after an alphanumeric. -/
def next : SubdomainScan → Char → SubdomainScan
  | labelStart, c => if isAlphanumeric c then alphanumeric else failed
  | alphanumeric, c =>
    if isAlphanumeric c then alphanumeric
    else if c = '-' then hyphen
    else if c = '.' then labelStart
    else failed
  | hyphen, c => if isAlphanumeric c then alphanumeric else if c = '-' then hyphen else failed
  | failed, _ => failed

/-- The scan of a list of characters from a state. -/
def scan (st : SubdomainScan) (cs : List Char) : SubdomainScan := cs.foldl next st

@[simp] theorem scan_nil (st : SubdomainScan) : st.scan [] = st := rfl

@[simp] theorem scan_cons (st : SubdomainScan) (c : Char) (cs : List Char) :
    st.scan (c :: cs) = (st.next c).scan cs := rfl

theorem scan_append (st : SubdomainScan) (xs ys : List Char) :
    st.scan (xs ++ ys) = (st.scan xs).scan ys :=
  List.foldl_append ..

@[simp] theorem failed_scan (cs : List Char) : failed.scan cs = failed := by
  induction cs with
  | nil => rfl
  | cons c cs ih => exact ih

theorem hyphen_scan_of_labelStart {cs : List Char} (h : labelStart.scan cs = alphanumeric) :
    hyphen.scan cs = alphanumeric := by
  cases cs with
  | nil => cases h
  | cons c cs =>
    by_cases hc : isAlphanumeric c
    · simpa only [scan_cons, next, hc, if_true] using h
    · simp only [scan_cons, next, hc, if_false, failed_scan, reduceCtorEq] at h

end SubdomainScan

/-- `dns1123SubdomainRegexp.MatchString`. -/
def matchString (value : String) : Bool :=
  decide (SubdomainScan.labelStart.scan value.data = .alphanumeric)

/-- `IsDNS1123Subdomain`: what is wrong with `value` as a subdomain name, nothing when it is one. -/
def isDNS1123Subdomain (value : String) : List String :=
  (if value.length > DNS1123SubdomainMaxLength then [maxLenError DNS1123SubdomainMaxLength]
    else []) ++
  (if matchString value then []
    else [regexError dns1123SubdomainErrorMsg dns1123SubdomainFmt ["example.com"]])

/-- A name `NameIsDNSSubdomain` accepts. -/
def DNS1123Subdomain (value : String) : Prop := isDNS1123Subdomain value = []

instance : DecidablePred DNS1123Subdomain := fun _ => inferInstanceAs (Decidable (_ = _))

theorem dns1123Subdomain_iff {value : String} :
    DNS1123Subdomain value ↔ value.length ≤ DNS1123SubdomainMaxLength ∧
      SubdomainScan.labelStart.scan value.data = .alphanumeric := by
  simp [DNS1123Subdomain, isDNS1123Subdomain, matchString, List.append_eq_nil]

theorem dns1123Subdomain_append {pre value : String}
    (hpre : SubdomainScan.labelStart.scan pre.data = .hyphen) (h : DNS1123Subdomain value) :
    DNS1123Subdomain (pre ++ value) ↔ pre.length + value.length ≤ DNS1123SubdomainMaxLength := by
  have hscan := SubdomainScan.hyphen_scan_of_labelStart (dns1123Subdomain_iff.mp h).2
  rw [dns1123Subdomain_iff, String.length_append, String.data_append, SubdomainScan.scan_append,
    hpre, hscan]
  exact and_iff_left rfl

end CorazaOperator.Validation
