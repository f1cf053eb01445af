import QueryFoundry.Text.Octets

/-!
# Headers of texts as objects

The headers of C++ that declare texts that keep their own memory.
-/

namespace QueryFoundry.Native.Headers

open Text (Octets)

/-- Numbers that stand for values in tables. -/
def hashes : Octets := "
 #include <type_traits>
 namespace std <%
 inline size_t __hash_bytes(const void *bytes, size_t count, size_t seed = 0xc70f6907UL) <%
   const size_t factor = 0xc6a4a7935bd1e995UL;
   const unsigned char *place = static_cast<const unsigned char *>(bytes);
   const unsigned char *end = place + (count & ~size_t(7));
   size_t found = seed ^ (count * factor);
   for (; place != end; place += 8) <%
     size_t word = 0;
     for (int i = 7; i >= 0; --i) word = (word << 8) + place[i];
     word *= factor; word ^= word >> 47; word *= factor;
     found ^= word; found *= factor; %>
   if (count & 7) <%
     size_t word = 0;
     for (int i = int(count & 7) - 1; i >= 0; --i) word = (word << 8) + end[i];
     found ^= word; found *= factor; %>
   found ^= found >> 47; found *= factor; found ^= found >> 47;
   return found; %>
 template <class T, bool = __is_enum(T)> struct __enum_hash;
 template <class T> struct __enum_hash<T, true> <%
   size_t operator()(T value) const noexcept <% return static_cast<size_t>(value); %> %>;
 template <class T> struct hash : __enum_hash<T> <%%>;
 #define __PLAIN_HASH(type) template <> struct hash<type> <% \\
   typedef size_t result_type; typedef type argument_type; \\
   size_t operator()(type value) const noexcept <% return static_cast<size_t>(value); %> %>;
 __PLAIN_HASH(bool)
 __PLAIN_HASH(char)
 __PLAIN_HASH(signed char)
 __PLAIN_HASH(unsigned char)
 __PLAIN_HASH(wchar_t)
 __PLAIN_HASH(char16_t)
 __PLAIN_HASH(char32_t)
 __PLAIN_HASH(short)
 __PLAIN_HASH(unsigned short)
 __PLAIN_HASH(int)
 __PLAIN_HASH(unsigned)
 __PLAIN_HASH(long)
 __PLAIN_HASH(unsigned long)
 __PLAIN_HASH(long long)
 __PLAIN_HASH(unsigned long long)
 #undef __PLAIN_HASH
 template <class T> struct hash<T *> <%
   size_t operator()(T *value) const noexcept <% return reinterpret_cast<size_t>(value); %> %>;
 template <> struct hash<decltype(nullptr)> <%
   size_t operator()(decltype(nullptr)) const noexcept <% return 0; %> %>;
 template <> struct hash<float> <% size_t operator()(float value) const noexcept <%
   return value != 0.0f ? __hash_bytes(&value, sizeof value) : 0; %> %>;
 template <> struct hash<double> <% size_t operator()(double value) const noexcept <%
   return value != 0.0 ? __hash_bytes(&value, sizeof value) : 0; %> %>;
 %>
"

/-- Texts that grow. -/
def strings : Octets := "
 #include <__memory>
 #include <__throwing>
 #include <__hash>
 #include <string.h>
 #include <stdio.h>
 #include <stdlib.h>
 namespace std <%
 template <class C> struct char_traits <%
   typedef C char_type; typedef int int_type; typedef size_t pos_type; typedef ptrdiff_t off_type;
   static void assign(C &a, const C &b) <% a = b; %>
   static C *assign(C *a, size_t n, C c) <% for (size_t i = 0; i < n; ++i) a[i] = c; return a; %>
   static bool eq(C a, C b) <% return a == b; %>
   static bool lt(C a, C b) <% return a < b; %>
   static int compare(const C *a, const C *b, size_t n) <%
     for (size_t i = 0; i < n; ++i) if (a[i] != b[i]) return a[i] < b[i] ? -1 : 1;
     return 0; %>
   static size_t length(const C *a) <% size_t n = 0; while (a[n] != C()) ++n; return n; %>
   static const C *find(const C *a, size_t n, const C &c) <%
     for (size_t i = 0; i < n; ++i) if (a[i] == c) return a + i;
     return 0; %>
   static C *move(C *a, const C *b, size_t n) <% memmove(a, b, n * sizeof(C)); return a; %>
   static C *copy(C *a, const C *b, size_t n) <% memcpy(a, b, n * sizeof(C)); return a; %>
   static int eof() <% return -1; %>
   static int to_int_type(C c) <% return c; %>
   static C to_char_type(int c) <% return C(c); %>
 %>;
 template <> struct char_traits<char> <%
   typedef char char_type; typedef int int_type; typedef size_t pos_type;
   typedef ptrdiff_t off_type;
   static void assign(char &a, const char &b) <% a = b; %>
   static char *assign(char *a, size_t n, char c) <% memset(a, c, n); return a; %>
   static bool eq(char a, char b) <% return a == b; %>
   static bool lt(char a, char b) <% return (unsigned char)a < (unsigned char)b; %>
   static int compare(const char *a, const char *b, size_t n) <% return memcmp(a, b, n); %>
   static size_t length(const char *a) <% return strlen(a); %>
   static const char *find(const char *a, size_t n, const char &c) <%
     return static_cast<const char *>(memchr(a, c, n)); %>
   static char *move(char *a, const char *b, size_t n) <%
     return static_cast<char *>(memmove(a, b, n)); %>
   static char *copy(char *a, const char *b, size_t n) <%
     return static_cast<char *>(memcpy(a, b, n)); %>
   static int eof() <% return -1; %>
   static int to_int_type(char c) <% return (unsigned char)c; %>
   static char to_char_type(int c) <% return char(c); %>
 %>;
 #if __cplusplus >= 201703L
 template <class C, class R = char_traits<C>> class basic_string_view;
 #endif
 inline namespace __cxx11 <%
 template <class C, class R = char_traits<C>, class A = allocator<C>> class basic_string <%
   C *__data; size_t __size;
   union <% C __small[16 / sizeof(C)]; size_t __room; %>;
   bool __is_small() const <% return __data == __small; %>
   void __start() <% __data = __small; __size = 0; __small[0] = C(); %>
   void __set_size(size_t n) <% __size = n; __data[n] = C(); %>
   void __release() <% if (!__is_small()) ::operator delete(__data); %>
   static C *__take(size_t &wanted, size_t old) <%
     if (wanted > size_t(0x3fffffffffffffff)) __throw_length_error(\"basic_string::_M_create\");
     if (wanted > old && wanted < 2 * old) wanted = 2 * old;
     return static_cast<C *>(::operator new((wanted + 1) * sizeof(C))); %>
   void __grow(size_t needed) <%
     size_t room = needed; C *place = __take(room, capacity());
     R::copy(place, __data, __size + 1);
     __release(); __data = place; __room = room; %>
   void __fill(const C *text, size_t n) <%
     if (n > capacity()) <% size_t room = n; C *place = __take(room, 0);
       __release(); __data = place; __room = room; %>
     if (n) R::copy(__data, text, n);
     __set_size(n); %>
   size_t __check(size_t position, const char *where) const <%
     if (position > __size) __throw_position(where, position, __size);
     return position; %>
   size_t __limit(size_t position, size_t n) const <%
     return n < __size - position ? n : __size - position; %>
   basic_string &__replace(size_t position, size_t old, const C *text, size_t n) <%
     if (old < n && n - old > max_size() - __size)
       __throw_length_error(\"basic_string::_M_replace\");
     size_t total = __size - old + n, rest = __size - position - old;
     if (total <= capacity() && (text + n < __data || text > __data + __size)) <%
       if (rest && old != n) R::move(__data + position + n, __data + position + old, rest);
       if (n) R::copy(__data + position, text, n);
       __set_size(total);
     %> else <%
       size_t room = total; C *place = __take(room, total > capacity() ? capacity() : 0);
       R::copy(place, __data, position);
       if (n) R::copy(place + position, text, n);
       if (rest) R::copy(place + position + n, __data + position + old, rest);
       if (total <= capacity()) <% R::copy(__data, place, total); ::operator delete(place); %>
       else <% __release(); __data = place; __room = room; %>
       __set_size(total);
     %>
     return *this; %>
 public:
   typedef R traits_type; typedef C value_type; typedef A allocator_type;
   typedef size_t size_type; typedef ptrdiff_t difference_type;
   typedef C &reference; typedef const C &const_reference;
   typedef C *pointer; typedef const C *const_pointer;
   typedef __gnu_cxx::__normal_iterator<C *, basic_string> iterator;
   typedef __gnu_cxx::__normal_iterator<const C *, basic_string> const_iterator;
   typedef std::reverse_iterator<iterator> reverse_iterator;
   typedef std::reverse_iterator<const_iterator> const_reverse_iterator;
   static constexpr size_t npos = size_t(-1);
   basic_string() <% __start(); %>
   explicit basic_string(const A &) <% __start(); %>
   basic_string(const basic_string &other) <% __start(); __fill(other.__data, other.__size); %>
   basic_string(basic_string &&other) noexcept <%
     __start();
     if (other.__is_small()) R::copy(__small, other.__small, other.__size + 1);
     else <% __data = other.__data; __room = other.__room; %>
     __size = other.__size; other.__start(); %>
   basic_string(const basic_string &other, size_t position, size_t n = npos) <%
     __start(); other.__check(position, \"basic_string::basic_string\");
     __fill(other.__data + position, other.__limit(position, n)); %>
   basic_string(const C *text, const A & = A()) <%
     __start();
     if (!text) __throw_logic_error(\"basic_string: construction from null is not valid\");
     __fill(text, R::length(text)); %>
   basic_string(const C *text, size_t n, const A & = A()) <%
     __start();
     if (!text && n) __throw_logic_error(\"basic_string: construction from null is not valid\");
     __fill(text, n); %>
   basic_string(size_t n, C c, const A & = A()) <% __start(); append(n, c); %>
   basic_string(initializer_list<C> list, const A & = A()) <%
     __start(); __fill(list.begin(), list.size()); %>
   template <class I, class = typename enable_if<__is_iterator<I>::value>::type>
   basic_string(I first, I last, const A & = A()) <%
     __start(); for (; first != last; ++first) push_back(*first); %>
 #if __cplusplus >= 201703L
   explicit basic_string(basic_string_view<C, R> view, const A & = A());
   operator basic_string_view<C, R>() const noexcept;
   basic_string &operator+=(basic_string_view<C, R> view);
   basic_string &append(basic_string_view<C, R> view);
   basic_string &operator=(basic_string_view<C, R> view);
 #endif
   ~basic_string() <% __release(); %>
   basic_string &operator=(const basic_string &other) <%
     if (this != &other) __fill(other.__data, other.__size);
     return *this; %>
   basic_string &operator=(basic_string &&other) noexcept <%
     if (this == &other) return *this;
     if (other.__is_small()) <% __fill(other.__data, other.__size); %>
     else if (__is_small()) <% __data = other.__data; __room = other.__room;
       __size = other.__size; other.__start(); return *this; %>
     else <% C *old = __data; size_t room = __room; __data = other.__data; __room = other.__room;
       __size = other.__size; other.__data = old; other.__room = room; %>
     other.__set_size(0); return *this; %>
   basic_string &operator=(const C *text) <% return assign(text); %>
   basic_string &operator=(C c) <% return assign(1, c); %>
   basic_string &operator=(initializer_list<C> list) <%
     return assign(list.begin(), list.size()); %>
   iterator begin() noexcept <% return iterator(__data); %>
   const_iterator begin() const noexcept <% return const_iterator(__data); %>
   iterator end() noexcept <% return iterator(__data + __size); %>
   const_iterator end() const noexcept <% return const_iterator(__data + __size); %>
   reverse_iterator rbegin() <% return reverse_iterator(end()); %>
   const_reverse_iterator rbegin() const <% return const_reverse_iterator(end()); %>
   reverse_iterator rend() <% return reverse_iterator(begin()); %>
   const_reverse_iterator rend() const <% return const_reverse_iterator(begin()); %>
   const_iterator cbegin() const noexcept <% return const_iterator(__data); %>
   const_iterator cend() const noexcept <% return const_iterator(__data + __size); %>
   const_reverse_iterator crbegin() const <% return const_reverse_iterator(end()); %>
   const_reverse_iterator crend() const <% return const_reverse_iterator(begin()); %>
   size_t size() const noexcept <% return __size; %>
   size_t length() const noexcept <% return __size; %>
   size_t max_size() const noexcept <% return size_t(0x3fffffffffffffff) - 1; %>
   size_t capacity() const noexcept <% return __is_small() ? 16 / sizeof(C) - 1 : __room; %>
   bool empty() const noexcept <% return __size == 0; %>
   void clear() noexcept <% __set_size(0); %>
   void reserve(size_t n = 0) <% if (n > capacity()) __grow(n); %>
   void shrink_to_fit() <%
     if (__is_small() || __size == __room) return;
     if (__size < 16 / sizeof(C)) <% C *old = __data; R::copy(__small, old, __size + 1);
       __data = __small; ::operator delete(old); %>
     else <% C *place = static_cast<C *>(::operator new((__size + 1) * sizeof(C)));
       R::copy(place, __data, __size + 1); ::operator delete(__data);
       __data = place; __room = __size; %> %>
   void resize(size_t n, C c = C()) <%
     if (n > __size) append(n - __size, c); else __set_size(n); %>
   C &operator[](size_t i) <% return __data[i]; %>
   const C &operator[](size_t i) const <% return __data[i]; %>
   C &at(size_t i) <%
     if (i >= __size) __throw_range(\"basic_string::at\", i, __size);
     return __data[i]; %>
   const C &at(size_t i) const <%
     if (i >= __size) __throw_range(\"basic_string::at\", i, __size);
     return __data[i]; %>
   C &front() <% return __data[0]; %>
   const C &front() const <% return __data[0]; %>
   C &back() <% return __data[__size - 1]; %>
   const C &back() const <% return __data[__size - 1]; %>
   const C *c_str() const noexcept <% return __data; %>
   const C *data() const noexcept <% return __data; %>
 #if __cplusplus >= 201703L
   C *data() noexcept <% return __data; %>
 #endif
   A get_allocator() const <% return A(); %>
   void push_back(C c) <%
     size_t n = __size; if (n + 1 > capacity()) __grow(n + 1);
     __data[n] = c; __set_size(n + 1); %>
   void pop_back() <% __set_size(__size - 1); %>
   basic_string &append(const C *text, size_t n) <%
     if (n > max_size() - __size) __throw_length_error(\"basic_string::append\");
     return __replace(__size, 0, text, n); %>
   basic_string &append(const C *text) <% return append(text, R::length(text)); %>
   basic_string &append(const basic_string &other) <% return append(other.__data,
       other.__size); %>
   basic_string &append(const basic_string &other, size_t position, size_t n = npos) <%
     other.__check(position, \"basic_string::append\");
     return append(other.__data + position, other.__limit(position, n)); %>
   basic_string &append(size_t n, C c) <%
     if (n > max_size() - __size) __throw_length_error(\"basic_string::_M_replace_aux\");
     if (__size + n > capacity()) __grow(__size + n);
     R::assign(__data + __size, n, c); __set_size(__size + n); return *this; %>
   basic_string &append(initializer_list<C> list) <% return append(list.begin(), list.size()); %>
   template <class I, class = typename enable_if<__is_iterator<I>::value>::type>
   basic_string &append(I first, I last) <%
     basic_string made(first, last); return append(made.__data, made.__size); %>
   basic_string &operator+=(const basic_string &other) <% return append(other); %>
   basic_string &operator+=(const C *text) <% return append(text); %>
   basic_string &operator+=(C c) <% push_back(c); return *this; %>
   basic_string &operator+=(initializer_list<C> list) <% return append(list); %>
   basic_string &assign(const basic_string &other) <% return *this = other; %>
   basic_string &assign(basic_string &&other) <% return *this = std::move(other); %>
   basic_string &assign(const basic_string &other, size_t position, size_t n = npos) <%
     other.__check(position, \"basic_string::assign\");
     return assign(other.__data + position, other.__limit(position, n)); %>
   basic_string &assign(const C *text, size_t n) <% return __replace(0, __size, text, n); %>
   basic_string &assign(const C *text) <% return assign(text, R::length(text)); %>
   basic_string &assign(size_t n, C c) <% clear(); return append(n, c); %>
   basic_string &assign(initializer_list<C> list) <% return assign(list.begin(), list.size()); %>
   template <class I, class = typename enable_if<__is_iterator<I>::value>::type>
   basic_string &assign(I first, I last) <% return *this = basic_string(first, last); %>
   basic_string &insert(size_t position, const C *text, size_t n) <%
     __check(position, \"basic_string::insert\"); return __replace(position, 0, text, n); %>
   basic_string &insert(size_t position, const C *text) <%
     return insert(position, text, R::length(text)); %>
   basic_string &insert(size_t position, const basic_string &other) <%
     return insert(position, other.__data, other.__size); %>
   basic_string &insert(size_t position, const basic_string &other, size_t start, size_t n =
       npos) <%
     other.__check(start, \"basic_string::insert\");
     return insert(position, other.__data + start, other.__limit(start, n)); %>
   basic_string &insert(size_t position, size_t n, C c) <%
     basic_string made(n, c); return insert(position, made); %>
   iterator insert(const_iterator place, C c) <%
     size_t position = place.base() - __data; insert(position, 1, c);
     return iterator(__data + position); %>
   iterator insert(const_iterator place, size_t n, C c) <%
     size_t position = place.base() - __data; insert(position, n, c);
     return iterator(__data + position); %>
   template <class I, class = typename enable_if<__is_iterator<I>::value>::type>
   iterator insert(const_iterator place, I first, I last) <%
     size_t position = place.base() - __data; basic_string made(first, last);
     insert(position, made); return iterator(__data + position); %>
   basic_string &erase(size_t position = 0, size_t n = npos) <%
     __check(position, \"basic_string::erase\"); n = __limit(position, n);
     if (n) <% R::move(__data + position, __data + position + n, __size - position - n);
       __set_size(__size - n); %>
     return *this; %>
   iterator erase(const_iterator place) <%
     size_t position = place.base() - __data; erase(position, 1);
     return iterator(__data + position); %>
   iterator erase(const_iterator first, const_iterator last) <%
     size_t position = first.base() - __data; erase(position, last - first);
     return iterator(__data + position); %>
   basic_string &replace(size_t position, size_t old, const C *text, size_t n) <%
     __check(position, \"basic_string::replace\");
     return __replace(position, __limit(position, old), text, n); %>
   basic_string &replace(size_t position, size_t old, const C *text) <%
     return replace(position, old, text, R::length(text)); %>
   basic_string &replace(size_t position, size_t old, const basic_string &other) <%
     return replace(position, old, other.__data, other.__size); %>
   basic_string &replace(size_t position, size_t old, const basic_string &other, size_t start,
       size_t n = npos) <%
     other.__check(start, \"basic_string::replace\");
     return replace(position, old, other.__data + start, other.__limit(start, n)); %>
   basic_string &replace(size_t position, size_t old, size_t n, C c) <%
     basic_string made(n, c); return replace(position, old, made); %>
   basic_string &replace(const_iterator first, const_iterator last, const basic_string &other) <%
     return replace(first.base() - __data, last - first, other); %>
   basic_string &replace(const_iterator first, const_iterator last, const C *text) <%
     return replace(first.base() - __data, last - first, text); %>
   size_t copy(C *target, size_t n, size_t position = 0) const <%
     __check(position, \"basic_string::copy\"); n = __limit(position, n);
     R::copy(target, __data + position, n); return n; %>
   void swap(basic_string &other) noexcept <%
     basic_string kept(std::move(other)); other = std::move(*this); *this = std::move(kept); %>
   basic_string substr(size_t position = 0, size_t n = npos) const <%
     __check(position, \"basic_string::substr\");
     return basic_string(__data + position, __limit(position, n)); %>
   size_t find(const C *text, size_t position, size_t n) const noexcept <%
     if (n == 0) return position <= __size ? position : npos;
     for (; position + n <= __size; ++position)
       if (R::compare(__data + position, text, n) == 0) return position;
     return npos; %>
   size_t find(const basic_string &other, size_t position = 0) const noexcept <%
     return find(other.__data, position, other.__size); %>
   size_t find(const C *text, size_t position = 0) const <%
     return find(text, position, R::length(text)); %>
   size_t find(C c, size_t position = 0) const noexcept <% return find(&c, position, 1); %>
   size_t rfind(const C *text, size_t position, size_t n) const noexcept <%
     if (n > __size) return npos;
     if (position > __size - n) position = __size - n;
     for (;; --position) <%
       if (R::compare(__data + position, text, n) == 0) return position;
       if (position == 0) return npos; %> %>
   size_t rfind(const basic_string &other, size_t position = npos) const noexcept <%
     return rfind(other.__data, position, other.__size); %>
   size_t rfind(const C *text, size_t position = npos) const <%
     return rfind(text, position, R::length(text)); %>
   size_t rfind(C c, size_t position = npos) const noexcept <% return rfind(&c, position, 1); %>
   size_t find_first_of(const C *text, size_t position, size_t n) const noexcept <%
     for (; n && position < __size; ++position)
       if (R::find(text, n, __data[position])) return position;
     return npos; %>
   size_t find_first_of(const basic_string &other, size_t position = 0) const noexcept <%
     return find_first_of(other.__data, position, other.__size); %>
   size_t find_first_of(const C *text, size_t position = 0) const <%
     return find_first_of(text, position, R::length(text)); %>
   size_t find_first_of(C c, size_t position = 0) const noexcept <% return find(c, position); %>
   size_t find_last_of(const C *text, size_t position, size_t n) const noexcept <%
     if (!__size || !n) return npos;
     if (position >= __size) position = __size - 1;
     for (;; --position) <%
       if (R::find(text, n, __data[position])) return position;
       if (position == 0) return npos; %> %>
   size_t find_last_of(const basic_string &other, size_t position = npos) const noexcept <%
     return find_last_of(other.__data, position, other.__size); %>
   size_t find_last_of(const C *text, size_t position = npos) const <%
     return find_last_of(text, position, R::length(text)); %>
   size_t find_last_of(C c, size_t position = npos) const noexcept <% return rfind(c,
       position); %>
   size_t find_first_not_of(const C *text, size_t position, size_t n) const noexcept <%
     for (; position < __size; ++position)
       if (!R::find(text, n, __data[position])) return position;
     return npos; %>
   size_t find_first_not_of(const basic_string &other, size_t position = 0) const noexcept <%
     return find_first_not_of(other.__data, position, other.__size); %>
   size_t find_first_not_of(const C *text, size_t position = 0) const <%
     return find_first_not_of(text, position, R::length(text)); %>
   size_t find_first_not_of(C c, size_t position = 0) const noexcept <%
     return find_first_not_of(&c, position, 1); %>
   size_t find_last_not_of(const C *text, size_t position, size_t n) const noexcept <%
     if (!__size) return npos;
     if (position >= __size) position = __size - 1;
     for (;; --position) <%
       if (!R::find(text, n, __data[position])) return position;
       if (position == 0) return npos; %> %>
   size_t find_last_not_of(const basic_string &other, size_t position = npos) const noexcept <%
     return find_last_not_of(other.__data, position, other.__size); %>
   size_t find_last_not_of(const C *text, size_t position = npos) const <%
     return find_last_not_of(text, position, R::length(text)); %>
   size_t find_last_not_of(C c, size_t position = npos) const noexcept <%
     return find_last_not_of(&c, position, 1); %>
   static int __compare(const C *a, size_t n, const C *b, size_t m) <%
     int found = R::compare(a, b, n < m ? n : m);
     if (found) return found;
     ptrdiff_t difference = ptrdiff_t(n - m);
     return difference > 2147483647 ? 2147483647 :
         difference < -2147483648L ? int(-2147483648L) : int(difference); %>
   int compare(const basic_string &other) const noexcept <%
     return __compare(__data, __size, other.__data, other.__size); %>
   int compare(const C *text) const <% return __compare(__data, __size, text, R::length(text)); %>
   int compare(size_t position, size_t n, const basic_string &other) const <%
     __check(position, \"basic_string::compare\");
     return __compare(__data + position, __limit(position, n), other.__data, other.__size); %>
   int compare(size_t position, size_t n, const C *text) const <%
     __check(position, \"basic_string::compare\");
     return __compare(__data + position, __limit(position, n), text, R::length(text)); %>
 #if __cplusplus >= 202002L
   bool starts_with(const basic_string &other) const <%
     return __size >= other.__size && R::compare(__data, other.__data, other.__size) == 0; %>
   bool ends_with(const basic_string &other) const <% return __size >= other.__size &&
     R::compare(__data + __size - other.__size, other.__data, other.__size) == 0; %>
 #endif
 %>;
 template <class C, class R, class A> constexpr size_t basic_string<C, R, A>::npos;
 typedef basic_string<char> string;
 typedef basic_string<wchar_t> wstring;
 typedef basic_string<char16_t> u16string;
 typedef basic_string<char32_t> u32string;
 %>
 #define __STRING template <class C, class R, class A>
 #define __S basic_string<C, R, A>
 __STRING __S operator+(const __S &a, const __S &b) <% __S made(a); made.append(b); return
     made; %>
 __STRING __S operator+(const __S &a, const C *b) <% __S made(a); made.append(b); return made; %>
 __STRING __S operator+(const C *a, const __S &b) <% __S made(a); made.append(b); return made; %>
 __STRING __S operator+(const __S &a, C b) <% __S made(a); made.push_back(b); return made; %>
 __STRING __S operator+(C a, const __S &b) <% __S made(1, a); made.append(b); return made; %>
 __STRING __S operator+(__S &&a, const __S &b) <% return move(a.append(b)); %>
 __STRING __S operator+(__S &&a, __S &&b) <% return move(a.append(b)); %>
 __STRING __S operator+(const __S &a, __S &&b) <% return move(b.insert(0, a)); %>
 __STRING __S operator+(__S &&a, const C *b) <% return move(a.append(b)); %>
 __STRING __S operator+(__S &&a, C b) <% return move(a.append(1, b)); %>
 __STRING __S operator+(const C *a, __S &&b) <% return move(b.insert(0, a)); %>
 __STRING __S operator+(C a, __S &&b) <% return move(b.insert(0, 1, a)); %>
 __STRING bool operator==(const __S &a, const __S &b) <%
   return a.size() == b.size() && a.compare(b) == 0; %>
 __STRING bool operator==(const __S &a, const C *b) <% return a.compare(b) == 0; %>
 __STRING bool operator==(const C *a, const __S &b) <% return b.compare(a) == 0; %>
 __STRING bool operator!=(const __S &a, const __S &b) <% return !(a == b); %>
 __STRING bool operator!=(const __S &a, const C *b) <% return a.compare(b) != 0; %>
 __STRING bool operator!=(const C *a, const __S &b) <% return b.compare(a) != 0; %>
 __STRING bool operator<(const __S &a, const __S &b) <% return a.compare(b) < 0; %>
 __STRING bool operator<(const __S &a, const C *b) <% return a.compare(b) < 0; %>
 __STRING bool operator<(const C *a, const __S &b) <% return b.compare(a) > 0; %>
 __STRING bool operator>(const __S &a, const __S &b) <% return a.compare(b) > 0; %>
 __STRING bool operator>(const __S &a, const C *b) <% return a.compare(b) > 0; %>
 __STRING bool operator>(const C *a, const __S &b) <% return b.compare(a) < 0; %>
 __STRING bool operator<=(const __S &a, const __S &b) <% return a.compare(b) <= 0; %>
 __STRING bool operator<=(const __S &a, const C *b) <% return a.compare(b) <= 0; %>
 __STRING bool operator>=(const __S &a, const __S &b) <% return a.compare(b) >= 0; %>
 __STRING bool operator>=(const __S &a, const C *b) <% return a.compare(b) >= 0; %>
 __STRING void swap(__S &a, __S &b) noexcept <% a.swap(b); %>
 #undef __S
 #undef __STRING
 #define __WRITTEN(type, form) \\
   inline string to_string(type value) <% \\
     char text[400]; snprintf(text, sizeof text, form, value); return text; %>
 __WRITTEN(int, \"%d\")
 __WRITTEN(unsigned, \"%u\")
 __WRITTEN(long, \"%ld\")
 __WRITTEN(unsigned long, \"%lu\")
 __WRITTEN(long long, \"%lld\")
 __WRITTEN(unsigned long long, \"%llu\")
 __WRITTEN(float, \"%f\")
 __WRITTEN(double, \"%f\")
 __WRITTEN(long double, \"%Lf\")
 #undef __WRITTEN
 inline void __check_number(const char *name, const char *text, const char *end, bool fits) <%
   if (end == text) __throw_invalid_argument(name);
   if (!fits) __throw_out_of_range(name); %>
 extern \"C\" int *__errno_location(void);
 #define __READ(type, name, call, test) \\
   inline type name(const string &text, size_t *used = nullptr, int base = 10) <% \\
     int kept = *__errno_location(); *__errno_location() = 0; char *end; \\
     auto value = call(text.c_str(), &end, base); \\
     bool fits = *__errno_location() != 34 && (test); \\
     __check_number(#name, text.c_str(), end, fits); \\
     if (*__errno_location() == 0) *__errno_location() = kept; \\
     if (used) *used = end - text.c_str(); \\
     return (type)value; %>
 __READ(int, stoi, ::strtol, value == int(value))
 __READ(long, stol, ::strtol, true)
 __READ(long long, stoll, ::strtoll, true)
 __READ(unsigned long, stoul, ::strtoul, true)
 __READ(unsigned long long, stoull, ::strtoull, true)
 #undef __READ
 #define __READ(type, name, call) \\
   inline type name(const string &text, size_t *used = nullptr) <% \\
     int kept = *__errno_location(); *__errno_location() = 0; char *end; \\
     auto value = call(text.c_str(), &end); \\
     __check_number(#name, text.c_str(), end, *__errno_location() != 34); \\
     if (*__errno_location() == 0) *__errno_location() = kept; \\
     if (used) *used = end - text.c_str(); \\
     return value; %>
 __READ(float, stof, ::strtof)
 __READ(double, stod, ::strtod)
 __READ(long double, stold, ::strtold)
 #undef __READ
 template <class C, class R, class A> struct hash<basic_string<C, R, A>> <%
   size_t operator()(const basic_string<C, R, A> &text) const noexcept <%
     return __hash_bytes(text.data(), text.size() * sizeof(C)); %> %>;
 #if __cplusplus >= 201402L
 inline namespace literals <%
 inline namespace string_literals <%
 inline string operator\"\"s(const char *text, size_t n) <% return string(text, n); %>
 %>
 %>
 #endif
 %>
 #if __cplusplus >= 201703L
 #include <string_view>
 namespace std <%
 template <class C, class R, class A>
 basic_string<C, R, A>::basic_string(basic_string_view<C, R> view, const A &) <%
   __start(); __fill(view.data(), view.size()); %>
 template <class C, class R, class A>
 basic_string<C, R, A>::operator basic_string_view<C, R>() const noexcept <%
   return basic_string_view<C, R>(__data, __size); %>
 template <class C, class R, class A>
 basic_string<C, R, A> &basic_string<C, R, A>::operator+=(basic_string_view<C, R> view) <%
   return append(view.data(), view.size()); %>
 template <class C, class R, class A>
 basic_string<C, R, A> &basic_string<C, R, A>::append(basic_string_view<C, R> view) <%
   return append(view.data(), view.size()); %>
 template <class C, class R, class A>
 basic_string<C, R, A> &basic_string<C, R, A>::operator=(basic_string_view<C, R> view) <%
   return assign(view.data(), view.size()); %>
 %>
 #endif
"

/-- Parts of texts that belong to others. -/
def stringViews : Octets := "
 #include <string>
 #if __cplusplus >= 201703L
 namespace std <%
 template <class C, class R> class basic_string_view <%
   const C *__data; size_t __size;
 public:
   typedef R traits_type; typedef C value_type; typedef const C *pointer;
   typedef const C *const_pointer; typedef const C &reference; typedef const C &const_reference;
   typedef const C *iterator; typedef const C *const_iterator; typedef size_t size_type;
   typedef ptrdiff_t difference_type;
   typedef std::reverse_iterator<const_iterator> reverse_iterator;
   typedef std::reverse_iterator<const_iterator> const_reverse_iterator;
   static constexpr size_t npos = size_t(-1);
   constexpr basic_string_view() noexcept : __data(nullptr), __size(0) <%%>
   constexpr basic_string_view(const basic_string_view &) noexcept = default;
   constexpr basic_string_view(const C *text) : __data(text), __size(0) <%
     while (text[__size] != C()) ++__size; %>
   constexpr basic_string_view(const C *text, size_t n) : __data(text), __size(n) <%%>
   basic_string_view &operator=(const basic_string_view &) noexcept = default;
   constexpr const C *begin() const noexcept <% return __data; %>
   constexpr const C *end() const noexcept <% return __data + __size; %>
   constexpr const C *cbegin() const noexcept <% return __data; %>
   constexpr const C *cend() const noexcept <% return __data + __size; %>
   const_reverse_iterator rbegin() const <% return const_reverse_iterator(end()); %>
   const_reverse_iterator rend() const <% return const_reverse_iterator(begin()); %>
   constexpr size_t size() const noexcept <% return __size; %>
   constexpr size_t length() const noexcept <% return __size; %>
   constexpr bool empty() const noexcept <% return __size == 0; %>
   constexpr const C &operator[](size_t i) const <% return __data[i]; %>
   const C &at(size_t i) const <%
     if (i >= __size) __throw_view_place(i, __size);
     return __data[i]; %>
   constexpr const C &front() const <% return __data[0]; %>
   constexpr const C &back() const <% return __data[__size - 1]; %>
   constexpr const C *data() const noexcept <% return __data; %>
   constexpr void remove_prefix(size_t n) <% __data += n; __size -= n; %>
   constexpr void remove_suffix(size_t n) <% __size -= n; %>
   void swap(basic_string_view &other) noexcept <%
     basic_string_view kept = *this; *this = other; other = kept; %>
   size_t copy(C *target, size_t n, size_t position = 0) const <%
     basic_string_view part = substr(position, n);
     R::copy(target, part.__data, part.__size); return part.__size; %>
   basic_string_view substr(size_t position = 0, size_t n = npos) const <%
     if (position > __size) __throw_position(\"basic_string_view::substr\", position, __size);
     return basic_string_view(__data + position, n < __size - position ? n : __size -
         position); %>
   int compare(basic_string_view other) const noexcept <%
     return basic_string<C, R>::__compare(__data, __size, other.__data, other.__size); %>
   int compare(size_t position, size_t n, basic_string_view other) const <%
     return substr(position, n).compare(other); %>
   size_t find(basic_string_view other, size_t position = 0) const noexcept <%
     if (other.__size == 0) return position <= __size ? position : npos;
     for (; position + other.__size <= __size; ++position)
       if (R::compare(__data + position, other.__data, other.__size) == 0) return position;
     return npos; %>
   size_t find(C c, size_t position = 0) const noexcept <%
     return find(basic_string_view(&c, 1), position); %>
   size_t rfind(basic_string_view other, size_t position = npos) const noexcept <%
     if (other.__size > __size) return npos;
     if (position > __size - other.__size) position = __size - other.__size;
     for (;; --position) <%
       if (R::compare(__data + position, other.__data, other.__size) == 0) return position;
       if (position == 0) return npos; %> %>
   size_t rfind(C c, size_t position = npos) const noexcept <%
     return rfind(basic_string_view(&c, 1), position); %>
   size_t find_first_of(basic_string_view set, size_t position = 0) const noexcept <%
     for (; position < __size; ++position)
       if (R::find(set.__data, set.__size, __data[position])) return position;
     return npos; %>
   size_t find_first_not_of(basic_string_view set, size_t position = 0) const noexcept <%
     for (; position < __size; ++position)
       if (!R::find(set.__data, set.__size, __data[position])) return position;
     return npos; %>
   size_t find_last_of(basic_string_view set, size_t position = npos) const noexcept <%
     if (position >= __size) position = __size - 1;
     for (size_t left = __size ? position + 1 : 0; left; --left)
       if (R::find(set.__data, set.__size, __data[left - 1])) return left - 1;
     return npos; %>
   size_t find_last_not_of(basic_string_view set, size_t position = npos) const noexcept <%
     if (position >= __size) position = __size - 1;
     for (size_t left = __size ? position + 1 : 0; left; --left)
       if (!R::find(set.__data, set.__size, __data[left - 1])) return left - 1;
     return npos; %>
   friend bool operator==(basic_string_view a, basic_string_view b) noexcept <%
     return a.__size == b.__size && a.compare(b) == 0; %>
   friend bool operator!=(basic_string_view a, basic_string_view b) noexcept <%
     return !(a == b); %>
   friend bool operator<(basic_string_view a, basic_string_view b) noexcept <%
     return a.compare(b) < 0; %>
   friend bool operator>(basic_string_view a, basic_string_view b) noexcept <%
     return a.compare(b) > 0; %>
   friend bool operator<=(basic_string_view a, basic_string_view b) noexcept <%
     return a.compare(b) <= 0; %>
   friend bool operator>=(basic_string_view a, basic_string_view b) noexcept <%
     return a.compare(b) >= 0; %>
 %>;
 typedef basic_string_view<char> string_view;
 typedef basic_string_view<wchar_t> wstring_view;
 template <class C, class R> struct hash<basic_string_view<C, R>> <%
   size_t operator()(basic_string_view<C, R> text) const noexcept <%
     return __hash_bytes(text.data(), text.size() * sizeof(C)); %> %>;
 inline namespace literals <%
 inline namespace string_view_literals <%
 inline constexpr string_view operator\"\"sv(const char *text, size_t n) noexcept <%
   return string_view(text, n); %>
 %>
 %>
 %>
 #endif
"

/-- The headers of texts as objects. -/
def stringHeaders : List (Octets × Octets) :=
  [("__hash", hashes), ("string", strings), ("string_view", stringViews)]

end QueryFoundry.Native.Headers
