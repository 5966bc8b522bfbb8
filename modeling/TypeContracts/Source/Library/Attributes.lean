import TypeContracts.Source.Library.Lineage

/-!
# What library classes offer

The names under which classes of the library have something. A class that is derived from
them has it too, and an annotated field of such a name starts out with what is there.
-/

set_option autoImplicit false

namespace TypeContracts.LibraryClass

/-- The names that classes add to those of their bases. -/
def ownAttributes : List (LibraryClass × String) :=
  [(⟨"builtins", "BaseException"⟩, "add_note args with_traceback"),
   (⟨"builtins", "BaseExceptionGroup"⟩, "derive split subgroup"),
   (⟨"builtins", "OSError"⟩, "characters_written"),
   (⟨"builtins", "bytearray"⟩,
      "append capitalize center clear copy count decode endswith expandtabs extend find " ++
      "fromhex hex index insert isalnum isalpha isascii isdigit islower isspace istitle " ++
      "isupper join ljust lower lstrip maketrans partition pop remove removeprefix " ++
      "removesuffix replace reverse rfind rindex rjust rpartition rsplit rstrip split " ++
      "splitlines startswith strip swapcase title translate upper zfill"),
   (⟨"builtins", "bytes"⟩,
      "capitalize center count decode endswith expandtabs find fromhex hex index " ++
      "isalnum isalpha isascii isdigit islower isspace istitle isupper join ljust lower " ++
      "lstrip maketrans partition removeprefix removesuffix replace rfind rindex rjust " ++
      "rpartition rsplit rstrip split splitlines startswith strip swapcase title " ++
      "translate upper zfill"),
   (⟨"builtins", "complex"⟩, "conjugate"),
   (⟨"builtins", "dict"⟩,
      "clear copy fromkeys get items keys pop popitem setdefault update values"),
   (⟨"builtins", "float"⟩, "as_integer_ratio conjugate fromhex hex imag is_integer real"),
   (⟨"builtins", "frozenset"⟩,
      "copy difference intersection isdisjoint issubset issuperset symmetric_difference " ++
      "union"),
   (⟨"builtins", "int"⟩,
      "as_integer_ratio bit_count bit_length conjugate denominator from_bytes imag " ++
      "numerator real to_bytes"),
   (⟨"builtins", "list"⟩, "append clear copy count extend index insert pop remove reverse sort"),
   (⟨"builtins", "property"⟩, "deleter getter setter"),
   (⟨"builtins", "set"⟩,
      "add clear copy difference difference_update discard intersection " ++
      "intersection_update isdisjoint issubset issuperset pop remove " ++
      "symmetric_difference symmetric_difference_update union update"),
   (⟨"builtins", "str"⟩,
      "capitalize casefold center count encode endswith expandtabs find format " ++
      "format_map index isalnum isalpha isascii isdecimal isdigit isidentifier islower " ++
      "isnumeric isprintable isspace istitle isupper join ljust lower lstrip maketrans " ++
      "partition removeprefix removesuffix replace rfind rindex rjust rpartition rsplit " ++
      "rstrip split splitlines startswith strip swapcase title translate upper zfill"),
   (⟨"builtins", "tuple"⟩, "count index"),
   (⟨"builtins", "type"⟩, "mro"),
   (⟨"collections.abc", "Coroutine"⟩, "close send throw"),
   (⟨"collections.abc", "AsyncGenerator"⟩, "aclose asend athrow"),
   (⟨"collections.abc", "Generator"⟩, "close send throw"),
   (⟨"collections.abc", "Set"⟩, "_from_iterable _hash isdisjoint"),
   (⟨"collections.abc", "MutableSet"⟩, "add clear discard pop remove"),
   (⟨"collections.abc", "Mapping"⟩, "get items keys values"),
   (⟨"collections.abc", "MutableMapping"⟩,
      "_MutableMapping__marker clear pop popitem setdefault update"),
   (⟨"collections.abc", "Sequence"⟩, "count index"),
   (⟨"collections.abc", "MutableSequence"⟩, "append clear extend insert pop remove reverse"),
   (⟨"collections", "deque"⟩,
      "append appendleft clear copy count extend extendleft index insert maxlen pop " ++
      "popleft remove reverse rotate"),
   (⟨"collections", "OrderedDict"⟩, "move_to_end"),
   (⟨"datetime", "datetime"⟩,
      "astimezone combine date dst fold hour microsecond minute now second strptime " ++
      "time timestamp timetz tzinfo tzname utcfromtimestamp utcnow utcoffset " ++
      "utctimetuple"),
   (⟨"datetime", "date"⟩,
      "ctime day fromisocalendar fromisoformat fromordinal fromtimestamp isocalendar " ++
      "isoformat isoweekday max min month replace resolution strftime timetuple today " ++
      "toordinal weekday year"),
   (⟨"datetime", "time"⟩,
      "dst fold fromisoformat hour isoformat max microsecond min minute replace " ++
      "resolution second strftime tzinfo tzname utcoffset"),
   (⟨"datetime", "timedelta"⟩, "max min resolution total_seconds"),
   (⟨"datetime", "tzinfo"⟩, "dst fromutc tzname utcoffset"),
   (⟨"decimal", "Decimal"⟩,
      "adjusted as_integer_ratio as_tuple canonical compare compare_signal " ++
      "compare_total compare_total_mag conjugate copy_abs copy_negate copy_sign exp fma " ++
      "from_float imag is_canonical is_finite is_infinite is_nan is_normal is_qnan " ++
      "is_signed is_snan is_subnormal is_zero ln log10 logb logical_and logical_invert " ++
      "logical_or logical_xor max max_mag min min_mag next_minus next_plus next_toward " ++
      "normalize number_class quantize radix real remainder_near rotate same_quantum " ++
      "scaleb shift sqrt to_eng_string to_integral to_integral_exact to_integral_value"),
   (⟨"uuid", "UUID"⟩,
      "bytes bytes_le clock_seq clock_seq_hi_variant clock_seq_low fields hex node time " ++
      "time_hi_version time_low time_mid urn variant version"),
   (⟨"typing", "Generic"⟩, "_is_protocol"),
   (⟨"typing", "Protocol"⟩, "_is_runtime_protocol"),
   (⟨"typing", "Annotated"⟩, "_class_getitem_inner")]

/-- The names that every class has, whatever it is derived from. -/
def commonAttributes : List String :=
  Text.cut ' ' <|
    "__annotations__ __base__ __bases__ __basicsize__ __call__ __class__ __delattr__ __dict__ " ++
    "__dictoffset__ __dir__ __doc__ __eq__ __flags__ __format__ __ge__ __getattribute__ " ++
    "__getstate__ __gt__ __hash__ __init__ __init_subclass__ __instancecheck__ __itemsize__ " ++
    "__le__ __lt__ __module__ __mro__ __name__ __ne__ __new__ __or__ __prepare__ __qualname__ " ++
    "__reduce__ __reduce_ex__ __repr__ __ror__ __setattr__ __sizeof__ __str__ " ++
    "__subclasscheck__ __subclasses__ __subclasshook__ __text_signature__ __weakref__ " ++
    "__weakrefoffset__"

/-- The name of the sort of value that cannot be shared between instances, for the common
names that have such a value. -/
def sharedSort? (name : String) : Option String :=
  match name with
  | "__annotations__" => some "dict"
  | "__dict__" => some "mappingproxy"
  | "__dataclass_fields__" => some "dict"
  | _ => none

/-- A class has something under a name of its own. -/
def offers (c : LibraryClass) (name : String) : Bool :=
  (ownAttributes.lookup c).any fun names => (Text.cut ' ' names).contains name

end TypeContracts.LibraryClass
