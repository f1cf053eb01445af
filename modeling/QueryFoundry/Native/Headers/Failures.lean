import QueryFoundry.Text.Octets

/-!
# Headers of failures

The headers of C++ that declare what is thrown, and how memory is asked for.
-/

namespace QueryFoundry.Native.Headers

open Text (Octets)

/-- What the language itself throws. -/
def failures : Octets := "
 #include <cstddef>
 extern \"C\" void abort(void) noexcept;
 namespace std <%
 class exception <%
 public:
   exception() noexcept <%%>
   exception(const exception &) noexcept <%%>
   exception &operator=(const exception &) noexcept <% return *this; %>
   virtual ~exception() <%%>
   virtual const char *what() const noexcept <% return \"std::exception\"; %>
 %>;
 class bad_exception : public exception <%
 public:
   const char *what() const noexcept override <% return \"std::bad_exception\"; %>
 %>;
 class bad_alloc : public exception <%
 public:
   const char *what() const noexcept override <% return \"std::bad_alloc\"; %>
 %>;
 class bad_array_new_length : public bad_alloc <%
 public:
   const char *what() const noexcept override <% return \"std::bad_array_new_length\"; %>
 %>;
 class bad_cast : public exception <%
 public:
   const char *what() const noexcept override <% return \"std::bad_cast\"; %>
 %>;
 class bad_typeid : public exception <%
 public:
   const char *what() const noexcept override <% return \"std::bad_typeid\"; %>
 %>;
 inline void terminate() noexcept <% abort(); %>
 %>
"

/-- Exceptions that are kept for later. -/
def exceptions : Octets := "
 #include <__failures>
 namespace std <%
 typedef void (*terminate_handler)();
 template <class T> class __shared_exception;
 %>
"

/-- How memory is asked for. -/
def memoryRequests : Octets := "
 #include <__failures>
 namespace std <%
 struct nothrow_t <% explicit nothrow_t() = default; %>;
 static const nothrow_t nothrow = nothrow_t();
 typedef void (*new_handler)();
 enum class align_val_t : size_t <%%>;
 %>
 inline void *operator new(size_t, void *place) noexcept <% return place; %>
 inline void *operator new[](size_t, void *place) noexcept <% return place; %>
 inline void operator delete(void *, void *) noexcept <%%>
 inline void operator delete[](void *, void *) noexcept <%%>
 inline void *operator new(size_t size, const std::nothrow_t &) noexcept <%
   return operator new(size); %>
 inline void *operator new[](size_t size, const std::nothrow_t &) noexcept <%
   return operator new[](size); %>
"

/-- What is known of types when the program runs. -/
def typeNames : Octets := "
 #include <__failures>
 #include <string.h>
 namespace std <%
 class type_info <%
   const void *__kind; const char *__name;
   type_info(const type_info &) = delete;
   type_info &operator=(const type_info &) = delete;
 public:
   const char *name() const noexcept <% return __name[0] == '*' ? __name + 1 : __name; %>
   bool operator==(const type_info &other) const noexcept <%
     return __name == other.__name || strcmp(__name, other.__name) == 0; %>
   bool operator!=(const type_info &other) const noexcept <% return !(*this == other); %>
   bool before(const type_info &other) const noexcept <%
     return strcmp(__name, other.__name) < 0; %>
   size_t hash_code() const noexcept <%
     size_t found = 5381;
     for (const char *c = __name; *c; ++c) found = found * 33 + (unsigned char)*c;
     return found; %>
 %>;
 %>
"

/-- What the library throws, with a text. -/
def standardFailures : Octets := "
 #include <__failures>
 #include <string>
 namespace std <%
 class logic_error : public exception <%
   string __text;
 public:
   explicit logic_error(const string &text) : __text(text) <%%>
   explicit logic_error(const char *text) : __text(text) <%%>
   const char *what() const noexcept override <% return __text.c_str(); %>
 %>;
 class runtime_error : public exception <%
   string __text;
 public:
   explicit runtime_error(const string &text) : __text(text) <%%>
   explicit runtime_error(const char *text) : __text(text) <%%>
   const char *what() const noexcept override <% return __text.c_str(); %>
 %>;
 #define __FAILURE(name, base) \\
   class name : public base <% \\
   public: \\
     explicit name(const string &text) : base(text) <%%> \\
     explicit name(const char *text) : base(text) <%%> \\
   %>;
 __FAILURE(invalid_argument, logic_error)
 __FAILURE(domain_error, logic_error)
 __FAILURE(length_error, logic_error)
 __FAILURE(out_of_range, logic_error)
 __FAILURE(range_error, runtime_error)
 __FAILURE(overflow_error, runtime_error)
 __FAILURE(underflow_error, runtime_error)
 #undef __FAILURE
 %>
"

/-- The functions that throw for the library. -/
def throwing : Octets := "
 #include <cstddef>
 extern \"C\" <%
 void __throw_out_of_range(const char *text);
 void __throw_position(const char *where, unsigned long position, unsigned long size);
 void __throw_range(const char *where, unsigned long position, unsigned long size);
 void __throw_view_place(unsigned long position, unsigned long size);
 void __throw_array_place(unsigned long position, unsigned long size);
 void __throw_length_error(const char *text);
 void __throw_logic_error(const char *text);
 void __throw_invalid_argument(const char *text);
 void __throw_runtime_error(const char *text);
 void __throw_bad_alloc();
 void __throw_bad_cast();
 void __throw_bad_typeid();
 void __throw_bad_function_call();
 %>
"

/-- The headers of failures. -/
def failureHeaders : List (Octets × Octets) :=
  [("__failures", failures), ("exception", exceptions), ("new", memoryRequests), ("typeinfo",
    typeNames), ("stdexcept", standardFailures), ("__throwing", throwing)]

end QueryFoundry.Native.Headers
