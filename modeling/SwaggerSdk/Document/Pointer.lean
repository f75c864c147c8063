/-!
# Names inside references

A reference names a shared parameter in an escaped form, in which a tilde is written `~0` and a slash `~1`.
`unescape_escape` says that every name can be written.
-/

namespace SwaggerSdk.Pointer

def escape : List Char → List Char
  | [] => []
  | '~' :: s => '~' :: '0' :: escape s
  | '/' :: s => '~' :: '1' :: escape s
  | c :: s => c :: escape s

def unescape : List Char → List Char
  | [] => []
  | '~' :: '0' :: s => '~' :: unescape s
  | '~' :: '1' :: s => '/' :: unescape s
  -- a tilde that escapes nothing stands for itself
  | c :: s => c :: unescape s

theorem unescape_cons {c : Char} (h : c ≠ '~') (s : List Char) : unescape (c :: s) = c :: unescape s := by
  rw [unescape.eq_def]
  split <;> simp_all

theorem unescape_escape (s : List Char) : unescape (escape s) = s := by
  fun_induction escape s with
  | case1 => rfl
  | case2 s ih => rw [unescape, ih]
  | case3 s ih => rw [unescape, ih]
  | case4 c s noTilde _ ih => rw [unescape_cons noTilde, ih]

def parameterPath : List Char := "#/parameters/".toList

def behind? : List Char → List Char → Option (List Char)
  | [], s => some s
  | _ :: _, [] => none
  | c :: start, d :: s => if c = d then behind? start s else none

def parameterName? (target : String) : Option String :=
  (behind? parameterPath target.toList).map fun name => String.ofList (unescape name)

def toParameter (name : String) : String := String.ofList (parameterPath ++ escape name.toList)

theorem behind?_append (start s : List Char) : behind? start (start ++ s) = some s := by
  induction start with
  | nil => rfl
  | cons c start ih => simpa [behind?] using ih

theorem parameterName?_toParameter (name : String) : parameterName? (toParameter name) = some name := by
  rw [parameterName?, toParameter, String.toList_ofList, behind?_append, Option.map_some, unescape_escape,
    String.ofList_toList]

end SwaggerSdk.Pointer
