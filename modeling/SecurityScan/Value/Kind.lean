/-!
# Kinds

The kinds that values have: the names of their operations, the kinds that they extend, and what
each says of itself.
-/

namespace SecurityScan.Kind

/-- Operations of every kind. -/
def common : List String :=
  ["__class__", "__delattr__", "__dir__", "__doc__", "__eq__", "__format__", "__ge__",
   "__getattribute__", "__getstate__", "__gt__", "__hash__", "__init__", "__init_subclass__",
   "__le__", "__lt__", "__ne__", "__new__", "__reduce__", "__reduce_ex__", "__repr__",
   "__setattr__", "__sizeof__", "__str__", "__subclasshook__"]

/-- Operations of texts. -/
def ofText : List String :=
  ["__add__", "__contains__", "__getitem__", "__getnewargs__", "__iter__", "__len__", "__mod__",
   "__mul__", "__rmod__", "__rmul__", "capitalize", "casefold", "center", "count", "encode",
   "endswith", "expandtabs", "find", "format", "format_map", "index", "isalnum", "isalpha",
   "isascii", "isdecimal", "isdigit", "isidentifier", "islower", "isnumeric", "isprintable",
   "isspace", "istitle", "isupper", "join", "ljust", "lower", "lstrip", "maketrans", "partition",
   "removeprefix", "removesuffix", "replace", "rfind", "rindex", "rjust", "rpartition", "rsplit",
   "rstrip", "split", "splitlines", "startswith", "strip", "swapcase", "title", "translate",
   "upper", "zfill"]

/-- The operations that a kind has beside the common ones. -/
def own : String → List String
  | "str" => ofText
  | "list" =>
    ["__add__", "__class_getitem__", "__contains__", "__delitem__", "__getitem__", "__iadd__",
     "__imul__", "__iter__", "__len__", "__mul__", "__reversed__", "__rmul__", "__setitem__",
     "append", "clear", "copy", "count", "extend", "index", "insert", "pop", "remove", "reverse",
     "sort"]
  | "dict" =>
    ["__class_getitem__", "__contains__", "__delitem__", "__getitem__", "__ior__", "__iter__",
     "__len__", "__or__", "__reversed__", "__ror__", "__setitem__", "clear", "copy", "fromkeys",
     "get", "items", "keys", "pop", "popitem", "setdefault", "update", "values"]
  | "tuple" =>
    ["__add__", "__class_getitem__", "__contains__", "__getitem__", "__getnewargs__", "__iter__",
     "__len__", "__mul__", "__rmul__", "count", "index"]
  | "int" | "bool" =>
    ["__abs__", "__add__", "__and__", "__bool__", "__ceil__", "__divmod__", "__float__",
     "__floor__", "__floordiv__", "__getnewargs__", "__index__", "__int__", "__invert__",
     "__lshift__", "__mod__", "__mul__", "__neg__", "__or__", "__pos__", "__pow__", "__radd__",
     "__rand__", "__rdivmod__", "__rfloordiv__", "__rlshift__", "__rmod__", "__rmul__", "__ror__",
     "__round__", "__rpow__", "__rrshift__", "__rshift__", "__rsub__", "__rtruediv__", "__rxor__",
     "__sub__", "__truediv__", "__trunc__", "__xor__", "as_integer_ratio", "bit_count",
     "bit_length", "conjugate", "denominator", "from_bytes", "imag", "numerator", "real",
     "to_bytes"]
  | "float" =>
    ["__abs__", "__add__", "__bool__", "__ceil__", "__divmod__", "__float__", "__floor__",
     "__floordiv__", "__getformat__", "__getnewargs__", "__int__", "__mod__", "__mul__",
     "__neg__", "__pos__", "__pow__", "__radd__", "__rdivmod__", "__rfloordiv__", "__rmod__",
     "__rmul__", "__round__", "__rpow__", "__rsub__", "__rtruediv__", "__sub__", "__truediv__",
     "__trunc__", "as_integer_ratio", "conjugate", "fromhex", "hex", "imag", "is_integer", "real"]
  | "complex" =>
    ["__abs__", "__add__", "__bool__", "__complex__", "__getnewargs__", "__mul__", "__neg__",
     "__pos__", "__pow__", "__radd__", "__rmul__", "__rpow__", "__rsub__", "__rtruediv__",
     "__sub__", "__truediv__", "conjugate", "imag", "real"]
  | "set" =>
    ["__and__", "__class_getitem__", "__contains__", "__iand__", "__ior__", "__isub__",
     "__iter__", "__ixor__", "__len__", "__or__", "__rand__", "__ror__", "__rsub__", "__rxor__",
     "__sub__", "__xor__", "add", "clear", "copy", "difference", "difference_update", "discard",
     "intersection", "intersection_update", "isdisjoint", "issubset", "issuperset", "pop",
     "remove", "symmetric_difference", "symmetric_difference_update", "union", "update"]
  | "bytes" =>
    ["__add__", "__bytes__", "__contains__", "__getitem__", "__getnewargs__", "__iter__",
     "__len__", "__mod__", "__mul__", "__rmod__", "__rmul__", "capitalize", "center", "count",
     "decode", "endswith", "expandtabs", "find", "fromhex", "hex", "index", "isalnum", "isalpha",
     "isascii", "isdigit", "islower", "isspace", "istitle", "isupper", "join", "ljust", "lower",
     "lstrip", "maketrans", "partition", "removeprefix", "removesuffix", "replace", "rfind",
     "rindex", "rjust", "rpartition", "rsplit", "rstrip", "split", "splitlines", "startswith",
     "strip", "swapcase", "title", "translate", "upper", "zfill"]
  | "range" =>
    ["__bool__", "__contains__", "__getitem__", "__iter__", "__len__", "__reversed__", "count",
     "index", "start", "step", "stop"]
  | "generator" =>
    ["__del__", "__iter__", "__name__", "__next__", "__qualname__", "close", "gi_code",
     "gi_frame", "gi_running", "gi_suspended", "gi_yieldfrom", "send", "throw"]
  | "dict_keys" =>
    ["__and__", "__contains__", "__iter__", "__len__", "__or__", "__rand__", "__reversed__",
     "__ror__", "__rsub__", "__rxor__", "__sub__", "__xor__", "isdisjoint", "mapping"]
  | "dict_values" =>
    ["__iter__", "__len__", "__reversed__", "mapping"]
  | "dict_items" =>
    ["__and__", "__contains__", "__iter__", "__len__", "__or__", "__rand__", "__reversed__",
     "__ror__", "__rsub__", "__rxor__", "__sub__", "__xor__", "isdisjoint", "mapping"]
  | "NoneType" =>
    ["__bool__"]
  | "builtin_function_or_method" =>
    ["__call__", "__module__", "__name__", "__qualname__", "__self__", "__text_signature__"]
  | "type" =>
    ["__base__", "__bases__", "__basicsize__",
     "__call__", "__dict__", "__dictoffset__", "__flags__", "__instancecheck__", "__itemsize__",
     "__module__", "__mro__", "__name__", "__or__", "__prepare__", "__qualname__", "__ror__",
     "__subclasscheck__", "__subclasses__", "__text_signature__", "__weakrefoffset__", "mro"]
  | "function" =>
    ["__annotations__", "__builtins__", "__call__", "__closure__", "__code__", "__defaults__",
     "__dict__", "__get__", "__globals__", "__kwdefaults__", "__module__", "__name__",
     "__qualname__"]
  | "method" =>
    ["__call__", "__func__", "__self__"]
  | _ => []

/-- Whether values of a kind have an operation. -/
def has (kind name : String) : Bool := common.contains name || (own kind).contains name

/-- A kind and those that it extends, the most general last. -/
def line : String → List String
  | "object" => ["object"]
  | "bool" => ["bool", "int", "object"]
  | kind => [kind, "object"]

/-! ## Operations as such -/

/-- The common operations that compare values. -/
def comparisons : List String :=
  ["__eq__", "__ge__", "__getattribute__", "__gt__", "__hash__", "__le__", "__lt__", "__ne__",
   "__repr__"]

/-- The operations of more general kinds that a kind has a form of its own for. -/
def redone : String → List String
  | "str" => comparisons ++ ["__format__", "__sizeof__", "__str__"]
  | "list" | "dict" => comparisons ++ ["__init__", "__sizeof__"]
  | "int" => comparisons ++ ["__format__", "__sizeof__"]
  | "float" | "complex" => comparisons ++ ["__format__"]
  | "set" => comparisons ++ ["__init__", "__reduce__", "__sizeof__"]
  | "bytes" => comparisons ++ ["__str__"]
  | "range" | "builtin_function_or_method" => comparisons ++ ["__reduce__"]
  | "tuple" | "dict_keys" | "dict_items" => comparisons
  | "bool" => ["__and__", "__or__", "__rand__", "__repr__", "__ror__", "__rxor__", "__xor__"]
  | "generator" => ["__getattribute__", "__repr__", "__sizeof__"]
  | "dict_values" => ["__getattribute__", "__repr__"]
  | "NoneType" | "function" => ["__repr__"]
  | "type" =>
    ["__delattr__", "__dir__", "__getattribute__", "__init__", "__repr__", "__setattr__",
     "__sizeof__"]
  | "object" => common
  | _ => []

/-- The kind, of those that a kind extends, that an operation is taken from. -/
def home (kind name : String) : String :=
  ((line kind).find? fun k =>
    (redone k).contains name || (k != "bool" && (own k).contains name)).getD kind

/-- Operations with names of the language that are called like all others. -/
def plainlyCalled (kind name : String) : Bool :=
  ["__bytes__", "__ceil__", "__complex__", "__dir__", "__floor__", "__format__", "__getnewargs__",
    "__getstate__", "__instancecheck__", "__length_hint__", "__reduce__", "__reduce_ex__",
    "__reversed__", "__round__", "__sizeof__", "__subclasscheck__", "__subclasses__",
    "__trunc__"].contains name ||
  [("list", "__getitem__"), ("dict", "__getitem__"), ("dict", "__contains__"),
    ("set", "__contains__")].contains (kind, name)

/-- What an operation is, taken from a kind as such. -/
inductive Form
  | method
  /-- An operation that a part of the language stands for. -/
  | slot
  /-- Something that is read and not called. -/
  | attribute
  | member
  /-- An operation of the kind itself. -/
  | ofKind
deriving DecidableEq

def form (kind name : String) : Form :=
  if ["__class_getitem__", "__getformat__", "__init_subclass__", "__new__", "__prepare__",
      "__subclasshook__", "from_bytes", "fromhex", "fromkeys", "maketrans"].contains name then
    .ofKind
  else if ["denominator", "imag", "mapping", "numerator", "real"].contains name then
    if kind == "complex" then .member else .attribute
  else if ["start", "step", "stop"].contains name then .member
  else if name.startsWith "__" && !plainlyCalled kind name then .slot
  else .method

/-- The kind of an operation that is taken from a kind as such. -/
def Form.kind : Form → String
  | .method => "method_descriptor"
  | .slot => "wrapper_descriptor"
  | .attribute => "getset_descriptor"
  | .member => "member_descriptor"
  | .ofKind => "builtin_function_or_method"

def Form.description : Form → String
  | .method => "method"
  | .slot => "slot wrapper"
  | .attribute => "attribute"
  | .member => "member"
  | .ofKind => "built-in method"

/-- How an operation is shown that is taken from a kind as such. -/
def operationText (kind name : String) : String :=
  let kind := home kind name
  match form kind name with
  | .ofKind => "<built-in method " ++ name ++ " of type object>"
  | f => "<" ++ f.description ++ " '" ++ name ++ "' of '" ++ kind ++ "' objects>"

/-- The kind of an operation of one value. -/
def boundKind (kind name : String) : String :=
  match form (home kind name) name with
  | .slot => "method-wrapper"
  | _ => "builtin_function_or_method"

/-- The full name of an operation of one value. -/
def boundName (kind name : String) : String :=
  (if form (home kind name) name == .slot then home kind name else kind) ++ "." ++ name

/-! ## Descriptions -/

/-- What a kind says of itself. -/
def description? : String → Option String
  | "str" => some (
    "str(object='') -> str\n" ++
    "str(bytes_or_buffer[, encoding[, errors]]) -> str\n" ++
    "\n" ++
    "Create a new string object from the given object. If encoding or\n" ++
    "errors is specified, then the object must expose a data buffer\n" ++
    "that will be decoded using the given encoding and error handler.\n" ++
    "Otherwise, returns the result of object.__str__() (if defined)\n" ++
    "or repr(object).\n" ++
    "encoding defaults to sys.getdefaultencoding().\n" ++
    "errors defaults to 'strict'.")
  | "object" => some (
    "The base class of the class hierarchy.\n" ++
    "\n" ++
    "When called, it accepts no arguments and returns a new featureless\n" ++
    "instance that has no instance attributes and cannot be given any.\n")
  | "type" => some (
    "type(object) -> the object's type\n" ++
    "type(name, bases, dict, **kwds) -> a new type")
  | "tuple" => some (
    "Built-in immutable sequence.\n" ++
    "\n" ++
    "If no argument is given, the constructor returns an empty tuple.\n" ++
    "If iterable is specified the tuple is initialized from iterable's items.\n" ++
    "\n" ++
    "If the argument is a tuple, the return value is the same object.")
  | "list" => some (
    "Built-in mutable sequence.\n" ++
    "\n" ++
    "If no argument is given, the constructor creates a new empty list.\n" ++
    "The argument must be an iterable if specified.")
  | "dict" => some (
    "dict() -> new empty dictionary\n" ++
    "dict(mapping) -> new dictionary initialized from a mapping object's\n" ++
    "    (key, value) pairs\n" ++
    "dict(iterable) -> new dictionary initialized as if via:\n" ++
    "    d = \x7b\x7d\n" ++
    "    for k, v in iterable:\n" ++
    "        d[k] = v\n" ++
    "dict(**kwargs) -> new dictionary initialized with the name=value pairs\n" ++
    "    in the keyword argument list.  For example:  dict(one=1, two=2)")
  | "int" => some (
    "int([x]) -> integer\n" ++
    "int(x, base=10) -> integer\n" ++
    "\n" ++
    "Convert a number or string to an integer, or return 0 if no arguments\n" ++
    "are given.  If x is a number, return x.__int__().  For floating point\n" ++
    "numbers, this truncates towards zero.\n" ++
    "\n" ++
    "If x is not a number or if base is given, then x must be a string,\n" ++
    "bytes, or bytearray instance representing an integer literal in the\n" ++
    "given base.  The literal can be preceded by '+' or '-' and be surrounded\n" ++
    "by whitespace.  The base defaults to 10.  Valid bases are 0 and 2-36.\n" ++
    "Base 0 means to interpret the base from the string as an integer literal.\n" ++
    ">>> int('0b100', base=0)\n" ++
    "4")
  | "float" => some (
    "Convert a string or number to a floating point number, if possible.")
  | "bool" => some (
    "bool(x) -> bool\n" ++
    "\n" ++
    "Returns True when the argument x is true, False otherwise.\n" ++
    "The builtins True and False are the only two instances of the class bool.\n" ++
    "The class bool is a subclass of the class int, and cannot be subclassed.")
  | "set" => some (
    "set() -> new empty set object\n" ++
    "set(iterable) -> new set object\n" ++
    "\n" ++
    "Build an unordered collection of unique elements.")
  | "bytes" => some (
    "bytes(iterable_of_ints) -> bytes\n" ++
    "bytes(string, encoding[, errors]) -> bytes\n" ++
    "bytes(bytes_or_buffer) -> immutable copy of bytes_or_buffer\n" ++
    "bytes(int) -> bytes object of size given by the parameter initialized with null bytes\n" ++
    "bytes() -> empty bytes object\n" ++
    "\n" ++
    "Construct an immutable array of bytes from:\n" ++
    "  - an iterable yielding integers in range(256)\n" ++
    "  - a text string encoded using the specified encoding\n" ++
    "  - any object implementing the buffer API.\n" ++
    "  - an integer")
  | "range" => some (
    "range(stop) -> range object\n" ++
    "range(start, stop[, step]) -> range object\n" ++
    "\n" ++
    "Return an object that produces a sequence of integers from start (inclusive)\n" ++
    "to stop (exclusive) by step.  range(i, j) produces i, i+1, i+2, ..., j-1.\n" ++
    "start defaults to 0, and stop is omitted!  range(4) produces 0, 1, 2, 3.\n" ++
    "These are exactly the valid indices for a list of 4 elements.\n" ++
    "When step is given, it specifies the increment (or decrement).")
  | "complex" => some (
    "Create a complex number from a real part and an optional imaginary part.\n" ++
    "\n" ++
    "This is equivalent to (real + imag*1j) where imag defaults to 0.")
  | _ => none

end SecurityScan.Kind
