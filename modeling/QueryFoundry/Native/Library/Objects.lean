import QueryFoundry.Text.Octets

/-!
# Objects and failures

The functions of the system that make objects of C++, and those that throw for its library.
-/

namespace QueryFoundry.Native.Library

open Text (Octets)

/-- Memory for objects, and what the language itself throws. -/
def objects : Octets := "
 #include <__failures>
 extern \"C\" void *__service_allocate(unsigned long);
 extern \"C\" void __service_release(void *);
 static const unsigned long most = 134217728;
 extern \"C\" void __throw_bad_alloc() <% throw std::bad_alloc(); %>
 extern \"C\" void __throw_bad_cast() <% throw std::bad_cast(); %>
 extern \"C\" void __throw_bad_typeid() <% throw std::bad_typeid(); %>
 void *operator new(unsigned long size) <%
 if (most < size) __throw_bad_alloc();
 return __service_allocate(size);
 %>
 void *operator new[](unsigned long size) <% return operator new(size); %>
 void operator delete(void *place) noexcept <% __service_release(place); %>
 void operator delete[](void *place) noexcept <% operator delete(place); %>
 void operator delete(void *place, unsigned long) noexcept <% operator delete(place); %>
 void operator delete[](void *place, unsigned long) noexcept <% operator delete[](place); %>
"

/-- The symbols of memory for objects. -/
def objectSymbols : List Octets :=
  ["__throw_bad_alloc", "__throw_bad_cast", "__throw_bad_typeid", "_Znwm", "_Znam", "_ZdlPv",
    "_ZdaPv", "_ZdlPvm", "_ZdaPvm"]

/-- What the library of C++ throws. -/
def failing : Octets := "
 #include <stdexcept>
 #include <functional>
 #include <stdio.h>
 extern \"C\" void __throw_out_of_range(const char *text) <% throw std::out_of_range(text); %>
 extern \"C\" void __throw_length_error(const char *text) <% throw std::length_error(text); %>
 extern \"C\" void __throw_logic_error(const char *text) <% throw std::logic_error(text); %>
 extern \"C\" void __throw_runtime_error(const char *text) <% throw std::runtime_error(text); %>
 extern \"C\" void __throw_invalid_argument(const char *text) <%
 throw std::invalid_argument(text);
 %>
 extern \"C\" void __throw_bad_function_call() <% throw std::bad_function_call(); %>
 extern \"C\" void __throw_position(const char *where, unsigned long position,
     unsigned long size) <%
 char text[400];
 snprintf(text, sizeof text, \"%s: __pos (which is %zu) > this->size() (which is %zu)\", where,
     position, size);
 throw std::out_of_range(text);
 %>
 extern \"C\" void __throw_range(const char *where, unsigned long position, unsigned long size) <%
 char text[400];
 snprintf(text, sizeof text, \"%s: __n (which is %zu) >= this->size() (which is %zu)\", where,
     position, size);
 throw std::out_of_range(text);
 %>
 extern \"C\" void __throw_array_place(unsigned long position, unsigned long size) <%
 char text[400];
 snprintf(text, sizeof text, \"array::at: __n (which is %zu) >= _Nm (which is %zu)\", position,
     size);
 throw std::out_of_range(text);
 %>
 extern \"C\" void __throw_view_place(unsigned long position, unsigned long size) <%
 char text[400];
 snprintf(text, sizeof text,
     \"basic_string_view::at: __pos (which is %zu) >= this->size() (which is %zu)\", position, size);
 throw std::out_of_range(text);
 %>
"

/-- The symbols of what the library of C++ throws. -/
def failingSymbols : List Octets :=
  ["__throw_out_of_range", "__throw_length_error", "__throw_logic_error", "__throw_runtime_error",
    "__throw_invalid_argument", "__throw_bad_function_call", "__throw_position", "__throw_range",
    "__throw_array_place", "__throw_view_place"]

end QueryFoundry.Native.Library
