import ToolBindings.Script.Kind
/-!
# Libraries

The libraries that a script can load, by their paths, and the names in those that scripts use
most. `isLibrary` tells whether there is a library at a path.
-/
namespace ToolBindings.Script

def plainLibraries : List String := wordsOf [
  "abc aifc argparse array ast asynchat asyncio asyncore atexit audioop base64 bdb",
  "binascii bisect builtins bz2 cProfile calendar cgi cgitb chunk cmath cmd code codecs",
  "codeop collections colorsys compileall concurrent configparser contextlib",
  "contextvars copy copyreg crypt csv ctypes curses dataclasses datetime dbm decimal",
  "difflib dis distutils doctest email encodings ensurepip enum errno faulthandler",
  "fcntl filecmp fileinput fnmatch fractions ftplib functools gc genericpath getopt",
  "getpass gettext glob graphlib grp gzip hashlib heapq hmac html http imaplib imghdr",
  "imp importlib inspect io ipaddress itertools json keyword lib2to3 linecache locale",
  "logging lzma mailbox mailcap marshal math mimetypes mmap modulefinder",
  "multiprocessing netrc nis nntplib ntpath nturl2path numbers opcode operator optparse",
  "os ossaudiodev pathlib pdb pickle pickletools pipes pkgutil platform plistlib poplib",
  "posix posixpath pprint profile pstats pty pwd py_compile pyclbr pydoc pydoc_data",
  "pyexpat queue quopri random re readline reprlib resource rlcompleter runpy sched",
  "secrets select selectors shelve shlex shutil signal site smtpd smtplib sndhdr socket",
  "socketserver spwd sqlite3 sre_compile sre_constants sre_parse ssl stat statistics",
  "string stringprep struct subprocess sunau symtable sys sysconfig syslog tabnanny",
  "tarfile telnetlib tempfile termios textwrap this threading time timeit tkinter token",
  "tokenize tomllib trace traceback tracemalloc tty turtle turtledemo types typing",
  "unicodedata unittest urllib uu uuid venv warnings wave weakref webbrowser wsgiref",
  "xdrlib xml xmlrpc zipapp zipfile zipimport zlib zoneinfo __future__ google"]

def libraryParts : List (String × String) := [
  ("collections", "abc"),
  ("concurrent", "futures"),
  ("ctypes", "macholib util wintypes"),
  ("curses", "ascii has_key panel textpad"),
  ("dbm", "dumb gnu ndbm"),
  ("email", "base64mime charset contentmanager encoders errors feedparser generator header " ++
    "headerregistry iterators message mime parser policy quoprimime utils"),
  ("encodings", "aliases ascii idna latin_1 utf_8"),
  ("html", "entities parser"),
  ("http", "client cookiejar cookies server"),
  ("importlib", "abc machinery metadata readers resources simple util"),
  ("json", "decoder encoder scanner tool"),
  ("logging", "config handlers"),
  ("multiprocessing", "connection context dummy forkserver heap managers pool popen_fork " ++
    "popen_forkserver popen_spawn_posix popen_spawn_win32 process queues reduction " ++
    "resource_sharer resource_tracker shared_memory sharedctypes spawn synchronize util"),
  ("unittest", "async_case case loader main mock result runner signals suite util"),
  ("urllib", "error parse request response robotparser"),
  ("wsgiref", "handlers headers simple_server types util validate"),
  ("xml", "dom etree parsers sax etree.ElementTree dom.minidom sax.saxutils"),
  ("asyncio", "base_events base_futures base_subprocess base_tasks constants coroutines " ++
    "events exceptions format_helpers futures locks log mixins proactor_events protocols " ++
    "queues runners selector_events sslproto staggered streams subprocess taskgroups tasks " ++
    "threads timeouts transports trsock unix_events windows_events windows_utils"),
  ("sqlite3", "dbapi2 dump"),
  ("os", "path"),
  ("google", "protobuf protobuf.message protobuf.json_format protobuf.descriptor_pb2 " ++
    "protobuf.wrappers_pb2 protobuf.struct_pb2")]

def libraryMembers : List (String × String) := [
  ("os",
    "CLD_CONTINUED CLD_DUMPED CLD_EXITED CLD_KILLED CLD_STOPPED CLD_TRAPPED DirEntry " ++
    "EFD_CLOEXEC EFD_NONBLOCK EFD_SEMAPHORE EX_CANTCREAT EX_CONFIG EX_DATAERR EX_IOERR " ++
    "EX_NOHOST EX_NOINPUT EX_NOPERM EX_NOUSER EX_OK EX_OSERR EX_OSFILE EX_PROTOCOL " ++
    "EX_SOFTWARE EX_TEMPFAIL EX_UNAVAILABLE EX_USAGE F_LOCK F_OK F_TEST F_TLOCK F_ULOCK " ++
    "GenericAlias Mapping MutableMapping NGROUPS_MAX O_ACCMODE O_APPEND O_ASYNC " ++
    "O_CLOEXEC O_CREAT O_DIRECT O_DIRECTORY O_DSYNC O_EXCL O_FSYNC O_LARGEFILE O_NDELAY " ++
    "O_NOATIME O_NOCTTY O_NOFOLLOW O_NONBLOCK O_PATH O_RDONLY O_RDWR O_RSYNC O_SYNC " ++
    "O_TMPFILE O_TRUNC O_WRONLY POSIX_FADV_DONTNEED POSIX_FADV_NOREUSE " ++
    "POSIX_FADV_NORMAL POSIX_FADV_RANDOM POSIX_FADV_SEQUENTIAL POSIX_FADV_WILLNEED " ++
    "POSIX_SPAWN_CLOSE POSIX_SPAWN_DUP2 POSIX_SPAWN_OPEN PRIO_PGRP PRIO_PROCESS " ++
    "PRIO_USER P_ALL P_NOWAIT P_NOWAITO P_PGID P_PID P_WAIT PathLike RTLD_DEEPBIND " ++
    "RTLD_GLOBAL RTLD_LAZY RTLD_LOCAL RTLD_NODELETE RTLD_NOLOAD RTLD_NOW R_OK " ++
    "SCHED_BATCH SCHED_FIFO SCHED_IDLE SCHED_OTHER SCHED_RESET_ON_FORK SCHED_RR " ++
    "SEEK_CUR SEEK_DATA SEEK_END SEEK_HOLE SEEK_SET SPLICE_F_MORE SPLICE_F_MOVE " ++
    "SPLICE_F_NONBLOCK ST_APPEND ST_MANDLOCK ST_NOATIME ST_NODEV ST_NODIRATIME " ++
    "ST_NOEXEC ST_NOSUID ST_RDONLY ST_RELATIME ST_SYNCHRONOUS ST_WRITE TMP_MAX " ++
    "WCONTINUED WCOREDUMP WEXITED WEXITSTATUS WIFCONTINUED WIFEXITED WIFSIGNALED " ++
    "WIFSTOPPED WNOHANG WNOWAIT WSTOPPED WSTOPSIG WTERMSIG WUNTRACED W_OK XATTR_CREATE " ++
    "XATTR_REPLACE XATTR_SIZE_MAX X_OK abc abort access altsep chdir chmod chown chroot " ++
    "close closerange confstr confstr_names cpu_count ctermid curdir defpath " ++
    "device_encoding devnull dup dup2 environ environb error eventfd eventfd_read " ++
    "eventfd_write execl execle execlp execlpe execv execve execvp execvpe extsep " ++
    "fchdir fchmod fchown fdatasync fdopen fork forkpty fpathconf fsdecode fsencode " ++
    "fspath fstat fstatvfs fsync ftruncate fwalk get_blocking get_exec_path " ++
    "get_inheritable get_terminal_size getcwd getcwdb getegid getenv getenvb geteuid " ++
    "getgid getgrouplist getgroups getloadavg getlogin getpgid getpgrp getpid getppid " ++
    "getpriority getresgid getresuid getsid getuid getxattr initgroups isatty kill " ++
    "killpg lchown linesep link listdir listxattr lockf login_tty lseek lstat major " ++
    "makedev makedirs minor mkdir mkfifo mknod name nice open openpty pardir path " ++
    "pathconf pathconf_names pathsep pipe pipe2 popen posix_fadvise posix_fallocate " ++
    "posix_spawn posix_spawnp pread preadv putenv pwrite pwritev read readlink readv " ++
    "register_at_fork remove removedirs removexattr rename renames replace rmdir " ++
    "scandir sched_get_priority_max sched_get_priority_min sched_getaffinity " ++
    "sched_getparam sched_getscheduler sched_param sched_rr_get_interval " ++
    "sched_setaffinity sched_setparam sched_setscheduler sched_yield sendfile sep " ++
    "set_blocking set_inheritable setegid seteuid setgid setgroups setpgid setpgrp " ++
    "setpriority setregid setresgid setresuid setreuid setsid setuid setxattr spawnl " ++
    "spawnle spawnlp spawnlpe spawnv spawnve spawnvp spawnvpe splice st stat " ++
    "stat_result statvfs statvfs_result strerror supports_bytes_environ supports_dir_fd " ++
    "supports_effective_ids supports_fd supports_follow_symlinks symlink sync sys " ++
    "sysconf sysconf_names system tcgetpgrp tcsetpgrp terminal_size times times_result " ++
    "truncate ttyname umask uname uname_result unlink unsetenv urandom utime wait wait3 " ++
    "wait4 waitid waitid_result waitpid waitstatus_to_exitcode walk write writev"),
  ("sys",
    "abiflags addaudithook api_version argv audit base_exec_prefix base_prefix " ++
    "breakpointhook builtin_module_names byteorder call_tracing copyright displayhook " ++
    "dont_write_bytecode exc_info excepthook exception exec_prefix executable exit " ++
    "flags float_info float_repr_style get_asyncgen_hooks " ++
    "get_coroutine_origin_tracking_depth get_int_max_str_digits getallocatedblocks " ++
    "getdefaultencoding getdlopenflags getfilesystemencodeerrors getfilesystemencoding " ++
    "getprofile getrecursionlimit getrefcount getsizeof getswitchinterval gettrace " ++
    "hash_info hexversion implementation int_info intern is_finalizing maxsize " ++
    "maxunicode meta_path modules orig_argv path path_hooks path_importer_cache " ++
    "platform platlibdir prefix pycache_prefix set_asyncgen_hooks " ++
    "set_coroutine_origin_tracking_depth set_int_max_str_digits setdlopenflags " ++
    "setprofile setrecursionlimit setswitchinterval settrace stderr stdin " ++
    "stdlib_module_names stdout thread_info unraisablehook version version_info " ++
    "warnoptions"),
  ("json",
    "JSONDecodeError JSONDecoder JSONEncoder codecs decoder detect_encoding dump dumps " ++
    "encoder load loads scanner"),
  ("math",
    "acos acosh asin asinh atan atan2 atanh cbrt ceil comb copysign cos cosh degrees " ++
    "dist e erf erfc exp exp2 expm1 fabs factorial floor fmod frexp fsum gamma gcd " ++
    "hypot inf isclose isfinite isinf isnan isqrt lcm ldexp lgamma log log10 log1p log2 " ++
    "modf nan nextafter perm pi pow prod radians remainder sin sinh sqrt tan tanh tau " ++
    "trunc ulp"),
  ("re",
    "A ASCII DEBUG DOTALL I IGNORECASE L LOCALE M MULTILINE Match NOFLAG Pattern " ++
    "RegexFlag S Scanner T TEMPLATE U UNICODE VERBOSE X compile copyreg enum error " ++
    "escape findall finditer fullmatch functools match purge search split sub subn " ++
    "template"),
  ("functools",
    "GenericAlias RLock WRAPPER_ASSIGNMENTS WRAPPER_UPDATES cache cached_property " ++
    "cmp_to_key get_cache_token lru_cache namedtuple partial partialmethod " ++
    "recursive_repr reduce singledispatch singledispatchmethod total_ordering " ++
    "update_wrapper wraps"),
  ("typing",
    "ABCMeta AbstractSet Annotated Any AnyStr AsyncContextManager AsyncGenerator " ++
    "AsyncIterable AsyncIterator Awaitable BinaryIO ByteString CT_co Callable ChainMap " ++
    "ClassVar Collection Concatenate Container ContextManager Coroutine Counter " ++
    "DefaultDict Deque Dict EXCLUDED_ATTRIBUTES Final ForwardRef FrozenSet Generator " ++
    "Generic GenericAlias Hashable IO ItemsView Iterable Iterator KT KeysView List " ++
    "Literal LiteralString Mapping MappingView Match MethodDescriptorType " ++
    "MethodWrapperType MutableMapping MutableSequence MutableSet NamedTuple " ++
    "NamedTupleMeta Never NewType NoReturn NotRequired Optional OrderedDict ParamSpec " ++
    "ParamSpecArgs ParamSpecKwargs Pattern Protocol Required Reversible Self Sequence " ++
    "Set Sized SupportsAbs SupportsBytes SupportsComplex SupportsFloat SupportsIndex " ++
    "SupportsInt SupportsRound T TYPE_CHECKING T_co T_contra Text TextIO Tuple Type " ++
    "TypeAlias TypeGuard TypeVar TypeVarTuple TypedDict Union Unpack VT VT_co V_co " ++
    "ValuesView WrapperDescriptorType abstractmethod assert_never assert_type cast " ++
    "clear_overloads collections contextlib dataclass_transform defaultdict final " ++
    "functools get_args get_origin get_overloads get_type_hints io is_typeddict " ++
    "no_type_check no_type_check_decorator operator overload re reveal_type " ++
    "runtime_checkable stdlib_re sys types warnings"),
  ("time",
    "CLOCK_BOOTTIME CLOCK_MONOTONIC CLOCK_MONOTONIC_RAW CLOCK_PROCESS_CPUTIME_ID " ++
    "CLOCK_REALTIME CLOCK_THREAD_CPUTIME_ID altzone asctime clock_getres clock_gettime " ++
    "clock_gettime_ns clock_settime clock_settime_ns ctime daylight get_clock_info " ++
    "gmtime localtime mktime monotonic monotonic_ns perf_counter perf_counter_ns " ++
    "process_time process_time_ns pthread_getcpuclockid sleep strftime strptime " ++
    "struct_time thread_time thread_time_ns time time_ns timezone tzname tzset"),
  ("random",
    "BPF LOG4 NV_MAGICCONST RECIP_BPF Random SG_MAGICCONST SystemRandom TWOPI " ++
    "betavariate choice choices expovariate gammavariate gauss getrandbits getstate " ++
    "lognormvariate normalvariate paretovariate randbytes randint random randrange " ++
    "sample seed setstate shuffle triangular uniform vonmisesvariate weibullvariate"),
  ("itertools",
    "accumulate chain combinations combinations_with_replacement compress count cycle " ++
    "dropwhile filterfalse groupby islice pairwise permutations product repeat starmap " ++
    "takewhile tee zip_longest"),
  ("collections",
    "ChainMap Counter OrderedDict UserDict UserList UserString abc defaultdict deque " ++
    "namedtuple"),
  ("string",
    "Formatter Template ascii_letters ascii_lowercase ascii_uppercase capwords digits " ++
    "hexdigits octdigits printable punctuation whitespace"),
  ("os.path",
    "abspath altsep basename commonpath commonprefix curdir defpath devnull dirname " ++
    "exists expanduser expandvars extsep genericpath getatime getctime getmtime getsize " ++
    "isabs isdir isfile islink ismount join lexists normcase normpath os pardir pathsep " ++
    "realpath relpath samefile sameopenfile samestat sep split splitdrive splitext stat " ++
    "supports_unicode_filenames sys")]

def isPlainLibrary (path : String) : Bool :=
  let outermost := path.toList.takeWhile (· ≠ '.')
  match path.toList.drop outermost.length with
  | [] => plainLibraries.contains path
  | _ :: rest =>
    let parts := words ((libraryParts.lookup (String.ofList outermost)).getD "")
    parts.contains (String.ofList rest)

/-- Whether there is a library at a path, given the path of the one that supports tools. -/
def isLibrary (support path : String) : Bool :=
  isPlainLibrary path || path = support || (path ++ ".").isPrefixOf support

def namesOfLibrary? (path : String) : Option (List String) :=
  (libraryMembers.lookup path).map words

/-- The types that the library which supports tools has. -/
def supportTypes : List String := ["Tool", "ToolError", "MissingInputError", "ToolDefinitionError"]

/-- The functions that the library which supports tools has. -/
def supportFunctions : List String := ["ToolName", "is_empty_input", "require_method"]

def supportNames : List String := ["Any", "Callable", "Mapping", "NewType", "dataclass"]

end ToolBindings.Script
