import ToolBindings.Text.Split
/-!
# The types and functions of the language

Types are known by name. `lineage` gives the types of which something of a type is, the type
itself first, and `memberNames` the names of its members.
-/
namespace ToolBindings.Script

def words (line : String) : List String :=
  ((Text.splitOn ' ' line.toList).filter (· ≠ [])).map String.ofList

def wordsOf (lines : List String) : List String := lines.flatMap words

/-- Types of errors, with the types that each of them extends. Those without an entry extend
`Exception`. -/
def errorBases : List (String × List String) := [
  ("BaseException", ["object"]), ("Exception", ["BaseException"]),
  ("BaseExceptionGroup", ["BaseException"]), ("GeneratorExit", ["BaseException"]),
  ("KeyboardInterrupt", ["BaseException"]), ("SystemExit", ["BaseException"]),
  ("ExceptionGroup", ["BaseExceptionGroup", "Exception"]),
  ("FloatingPointError", ["ArithmeticError"]), ("OverflowError", ["ArithmeticError"]),
  ("ZeroDivisionError", ["ArithmeticError"]), ("IndentationError", ["SyntaxError"]),
  ("TabError", ["IndentationError"]), ("IndexError", ["LookupError"]),
  ("KeyError", ["LookupError"]), ("ModuleNotFoundError", ["ImportError"]),
  ("NotImplementedError", ["RuntimeError"]), ("RecursionError", ["RuntimeError"]),
  ("UnboundLocalError", ["NameError"]), ("UnicodeError", ["ValueError"]),
  ("UnicodeDecodeError", ["UnicodeError"]), ("UnicodeEncodeError", ["UnicodeError"]),
  ("UnicodeTranslateError", ["UnicodeError"]), ("BlockingIOError", ["OSError"]),
  ("ChildProcessError", ["OSError"]), ("ConnectionError", ["OSError"]),
  ("FileExistsError", ["OSError"]), ("FileNotFoundError", ["OSError"]),
  ("InterruptedError", ["OSError"]), ("IsADirectoryError", ["OSError"]),
  ("NotADirectoryError", ["OSError"]), ("PermissionError", ["OSError"]),
  ("ProcessLookupError", ["OSError"]), ("TimeoutError", ["OSError"]),
  ("BrokenPipeError", ["ConnectionError"]), ("ConnectionAbortedError", ["ConnectionError"]),
  ("ConnectionRefusedError", ["ConnectionError"]), ("ConnectionResetError", ["ConnectionError"]),
  ("BytesWarning", ["Warning"]), ("DeprecationWarning", ["Warning"]),
  ("EncodingWarning", ["Warning"]), ("FutureWarning", ["Warning"]),
  ("ImportWarning", ["Warning"]), ("PendingDeprecationWarning", ["Warning"]),
  ("ResourceWarning", ["Warning"]), ("RuntimeWarning", ["Warning"]),
  ("SyntaxWarning", ["Warning"]), ("UnicodeWarning", ["Warning"]), ("UserWarning", ["Warning"]),
  ("FrozenInstanceError", ["AttributeError"]),
  ("MissingInputError", ["ToolError", "ValueError"]),
  ("ToolDefinitionError", ["ToolError", "TypeError"])]

/-- Types of errors that extend `Exception`. -/
def plainErrors : List String := wordsOf [
  "ArithmeticError AssertionError AttributeError BufferError EOFError ImportError LookupError",
  "MemoryError NameError OSError ReferenceError RuntimeError StopAsyncIteration StopIteration",
  "SyntaxError SystemError TypeError ValueError Warning ToolError"]

/-- Types that are known without being loaded, beside those of errors. -/
def plainTypes : List String := wordsOf [
  "bool bytearray bytes classmethod complex dict enumerate filter float frozenset int list map",
  "memoryview object property range reversed set slice staticmethod str super tuple type zip"]

/-- Types of errors and other types that are known only when they are loaded. -/
def loadedTypes : List String :=
  ["ToolError", "MissingInputError", "ToolDefinitionError", "FrozenInstanceError"]

def errorTypes : List String := plainErrors ++ errorBases.map (·.1)

/-- Functions that are known without being loaded. -/
def plainFunctions : List String := wordsOf [
  "__build_class__ __import__ abs aiter all anext any ascii bin breakpoint callable chr compile",
  "copyright credits delattr dir divmod eval exec exit format getattr globals hasattr hash help",
  "hex id input isinstance issubclass iter len license locals max min next oct open ord pow",
  "print quit repr round setattr sorted sum vars"]

/-- The types that a type of the language extends. -/
def basesOf (type : String) : List String :=
  if type = "object" then []
  else if type = "bool" then ["int"]
  else (errorBases.lookup type).getD [if plainErrors.contains type then "Exception" else "object"]

/-- The items of a list, each where it stands last. -/
def withoutEarlier {α : Type} (same : α → α → Bool) : List α → List α
  | [] => []
  | item :: rest =>
    let rest := withoutEarlier same rest
    if rest.any (same item) then rest else item :: rest

/-- A type and all that it extends, whatever is extended behind what extends it. -/
def lineageOf : Nat → String → List String
  | 0, type => [type]
  | bound + 1, type => type :: withoutEarlier (· == ·) ((basesOf type).flatMap (lineageOf bound))

/-- A type of the language and all that it extends; none extends more than eight deep. -/
def lineage (type : String) : List String := lineageOf 8 type

def objectMembers : List String := wordsOf [
  "__class__ __delattr__ __dir__ __doc__ __eq__ __format__ __ge__ __getattribute__",
  "__getstate__ __gt__ __hash__ __init__ __init_subclass__ __le__ __lt__ __ne__ __new__",
  "__reduce__ __reduce_ex__ __repr__ __setattr__ __sizeof__ __str__ __subclasshook__"]

/-- The members that everything of a type has, beside those that everything has. -/
def ownMembers : List (String × String) := [
  ("int", "__abs__ __add__ __and__ __bool__ __ceil__ __divmod__ __float__ __floor__ " ++
    "__floordiv__ __getnewargs__ __index__ __int__ __invert__ __lshift__ __mod__ __mul__ " ++
    "__neg__ __or__ __pos__ __pow__ __radd__ __rand__ __rdivmod__ __rfloordiv__ __rlshift__ " ++
    "__rmod__ __rmul__ __ror__ __round__ __rpow__ __rrshift__ __rshift__ __rsub__ " ++
    "__rtruediv__ __rxor__ __sub__ __truediv__ __trunc__ __xor__ as_integer_ratio bit_count " ++
    "bit_length conjugate denominator from_bytes imag numerator real to_bytes"),
  ("float", "__abs__ __add__ __bool__ __ceil__ __divmod__ __float__ __floor__ __floordiv__ " ++
    "__getformat__ __getnewargs__ __int__ __mod__ __mul__ __neg__ __pos__ __pow__ __radd__ " ++
    "__rdivmod__ __rfloordiv__ __rmod__ __rmul__ __round__ __rpow__ __rsub__ __rtruediv__ " ++
    "__sub__ __truediv__ __trunc__ as_integer_ratio conjugate fromhex hex imag is_integer real"),
  ("str", "__add__ __contains__ __getitem__ __getnewargs__ __iter__ __len__ __mod__ __mul__ " ++
    "__rmod__ __rmul__ capitalize casefold center count encode endswith expandtabs find format " ++
    "format_map index isalnum isalpha isascii isdecimal isdigit isidentifier islower isnumeric " ++
    "isprintable isspace istitle isupper join ljust lower lstrip maketrans partition " ++
    "removeprefix removesuffix replace rfind rindex rjust rpartition rsplit rstrip split " ++
    "splitlines startswith strip swapcase title translate upper zfill"),
  ("bytes", "__add__ __bytes__ __contains__ __getitem__ __getnewargs__ __iter__ __len__ " ++
    "__mod__ __mul__ __rmod__ __rmul__ capitalize center count decode endswith expandtabs find " ++
    "fromhex hex index isalnum isalpha isascii isdigit islower isspace istitle isupper join " ++
    "ljust lower lstrip maketrans partition removeprefix removesuffix replace rfind rindex " ++
    "rjust rpartition rsplit rstrip split splitlines startswith strip swapcase title translate " ++
    "upper zfill"),
  ("list", "__add__ __class_getitem__ __contains__ __delitem__ __getitem__ __iadd__ __imul__ " ++
    "__iter__ __len__ __mul__ __reversed__ __rmul__ __setitem__ append clear copy count extend " ++
    "index insert pop remove reverse sort"),
  ("tuple", "__add__ __class_getitem__ __contains__ __getitem__ __getnewargs__ __iter__ " ++
    "__len__ __mul__ __rmul__ count index"),
  ("dict", "__class_getitem__ __contains__ __delitem__ __getitem__ __ior__ __iter__ __len__ " ++
    "__or__ __reversed__ __ror__ __setitem__ clear copy fromkeys get items keys pop popitem " ++
    "setdefault update values"),
  ("set", "__and__ __class_getitem__ __contains__ __iand__ __ior__ __isub__ __iter__ __ixor__ " ++
    "__len__ __or__ __rand__ __ror__ __rsub__ __rxor__ __sub__ __xor__ add clear copy " ++
    "difference difference_update discard intersection intersection_update isdisjoint issubset " ++
    "issuperset pop remove symmetric_difference symmetric_difference_update union update"),
  ("frozenset", "__and__ __class_getitem__ __contains__ __iter__ __len__ __or__ __rand__ " ++
    "__ror__ __rsub__ __rxor__ __sub__ __xor__ copy difference intersection isdisjoint " ++
    "issubset issuperset symmetric_difference union"),
  ("range", "__bool__ __contains__ __getitem__ __iter__ __len__ __reversed__ count index start " ++
    "step stop"),
  ("slice", "indices start step stop"),
  ("NoneType", "__bool__"),
  ("function", "__annotations__ __builtins__ __call__ __closure__ __code__ __defaults__ " ++
    "__dict__ __get__ __globals__ __kwdefaults__ __module__ __name__ __qualname__"),
  ("builtin_function_or_method",
    "__call__ __module__ __name__ __qualname__ __self__ __text_signature__"),
  ("method", "__annotations__ __builtins__ __call__ __closure__ __code__ __defaults__ " ++
    "__dict__ __func__ __get__ __globals__ __kwdefaults__ __module__ __name__ __qualname__ " ++
    "__self__"),
  ("type", "__abstractmethods__ __annotations__ __base__ __bases__ __basicsize__ __call__ " ++
    "__dict__ __dictoffset__ __flags__ __instancecheck__ __itemsize__ __module__ __mro__ " ++
    "__name__ __or__ __prepare__ __qualname__ __ror__ __subclasscheck__ __subclasses__ " ++
    "__text_signature__ __weakrefoffset__ mro"),
  ("module", "__dict__ __loader__ __name__ __package__ __spec__"),
  ("generator", "__del__ __iter__ __name__ __next__ __qualname__ close gi_code gi_frame " ++
    "gi_running gi_suspended gi_yieldfrom send throw"),
  ("coroutine", "__await__ __del__ __name__ __qualname__ close cr_await cr_code cr_frame " ++
    "cr_origin cr_running cr_suspended send throw"),
  ("iterator", "__iter__ __next__"), ("map", "__iter__ __next__"), ("zip", "__iter__ __next__"),
  ("filter", "__iter__ __next__"), ("enumerate", "__iter__ __next__"),
  ("reversed", "__iter__ __next__"),
  ("partial", "__call__ __class_getitem__ __dict__ __module__ __setstate__ " ++
    "__vectorcalloffset__ args func keywords"),
  ("property", "__delete__ __get__ __isabstractmethod__ __set__ __set_name__ deleter fdel " ++
    "fget fset getter setter"),
  ("staticmethod", "__annotations__ __call__ __dict__ __func__ __get__ __isabstractmethod__ " ++
    "__module__ __name__ __qualname__ __wrapped__"),
  ("classmethod", "__annotations__ __dict__ __func__ __get__ __isabstractmethod__ __module__ " ++
    "__name__ __qualname__ __wrapped__"),
  ("BaseException", "__cause__ __context__ __dict__ __setstate__ __suppress_context__ " ++
    "__traceback__ add_note args with_traceback"),
  ("StopIteration", "value"), ("SystemExit", "code"), ("ImportError", "msg name path"),
  ("NameError", "name"), ("AttributeError", "name obj"),
  ("OSError", "characters_written errno filename filename2 strerror"),
  ("SyntaxError", "end_lineno end_offset filename lineno msg offset print_file_and_line text"),
  ("ToolError", "__module__ __weakref__"),
  ("Tool", "__annotations__ __call__ __dataclass_fields__ __dataclass_params__ __dict__ " ++
    "__match_args__ __module__ __weakref__")]

/-- The names of the members of something of a type of the language. -/
def memberNames (type : String) : List String :=
  objectMembers ++ (lineage type).flatMap fun type => words ((ownMembers.lookup type).getD "")

end ToolBindings.Script
