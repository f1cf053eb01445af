import QueryFoundry.Text.Octets

/-!
# Headers of sequences

The headers of C++ that declare iterators and sequences in memory.
-/

namespace QueryFoundry.Native.Headers

open Text (Octets)

/-- Iterators and what is made of them. -/
def iterators : Octets := "
 #include <utility>
 namespace std <%
 struct input_iterator_tag <%%>;
 struct output_iterator_tag <%%>;
 struct forward_iterator_tag : input_iterator_tag <%%>;
 struct bidirectional_iterator_tag : forward_iterator_tag <%%>;
 struct random_access_iterator_tag : bidirectional_iterator_tag <%%>;
 template <class C, class T, class D = ptrdiff_t, class P = T *, class R = T &> struct iterator <%
   typedef C iterator_category; typedef T value_type; typedef D difference_type;
   typedef P pointer; typedef R reference; %>;
 template <class I> struct iterator_traits <%
   typedef typename I::iterator_category iterator_category;
   typedef typename I::value_type value_type;
   typedef typename I::difference_type difference_type;
   typedef typename I::pointer pointer; typedef typename I::reference reference; %>;
 template <class T> struct iterator_traits<T *> <%
   typedef random_access_iterator_tag iterator_category;
   typedef typename remove_cv<T>::type value_type; typedef ptrdiff_t difference_type;
   typedef T *pointer; typedef T &reference; %>;
 template <class T, class = void> struct __is_iterator : false_type <%%>;
 template <class T> struct __is_iterator<T *, void> : true_type <%%>;
 template <class T> struct __is_iterator<T, void_t<typename T::iterator_category>>
     : true_type <%%>;
 template <class I> inline void __advance(I &place, ptrdiff_t count, input_iterator_tag) <%
   while (count-- > 0) ++place; %>
 template <class I> inline void __advance(I &place, ptrdiff_t count,
     bidirectional_iterator_tag) <%
   if (count > 0) while (count--) ++place; else while (count++) --place; %>
 template <class I> inline void __advance(I &place, ptrdiff_t count,
     random_access_iterator_tag) <%
   place += count; %>
 template <class I, class D> inline void advance(I &place, D count) <%
   __advance(place, ptrdiff_t(count), typename iterator_traits<I>::iterator_category()); %>
 template <class I> inline ptrdiff_t __distance(I first, I last, input_iterator_tag) <%
   ptrdiff_t count = 0; for (; first != last; ++first) ++count; return count; %>
 template <class I> inline ptrdiff_t __distance(I first, I last, random_access_iterator_tag) <%
   return last - first; %>
 template <class I>
 inline typename iterator_traits<I>::difference_type distance(I first, I last) <%
   return __distance(first, last, typename iterator_traits<I>::iterator_category()); %>
 template <class I>
 inline I next(I place, typename iterator_traits<I>::difference_type count = 1) <%
   advance(place, count); return place; %>
 template <class I>
 inline I prev(I place, typename iterator_traits<I>::difference_type count = 1) <%
   advance(place, -count); return place; %>
 template <class I> class reverse_iterator <%
 protected:
   I current;
 public:
   typedef I iterator_type;
   typedef typename iterator_traits<I>::iterator_category iterator_category;
   typedef typename iterator_traits<I>::value_type value_type;
   typedef typename iterator_traits<I>::difference_type difference_type;
   typedef typename iterator_traits<I>::pointer pointer;
   typedef typename iterator_traits<I>::reference reference;
   reverse_iterator() : current() <%%>
   explicit reverse_iterator(I place) : current(place) <%%>
   template <class J> reverse_iterator(const reverse_iterator<J> &other) :
       current(other.base()) <%%>
   I base() const <% return current; %>
   reference operator*() const <% I place = current; return *--place; %>
   pointer operator->() const <% return addressof(operator*()); %>
   reverse_iterator &operator++() <% --current; return *this; %>
   reverse_iterator operator++(int) <% reverse_iterator old = *this; --current; return old; %>
   reverse_iterator &operator--() <% ++current; return *this; %>
   reverse_iterator operator--(int) <% reverse_iterator old = *this; ++current; return old; %>
   reverse_iterator operator+(difference_type n) const <% return reverse_iterator(current - n); %>
   reverse_iterator operator-(difference_type n) const <% return reverse_iterator(current + n); %>
   reverse_iterator &operator+=(difference_type n) <% current -= n; return *this; %>
   reverse_iterator &operator-=(difference_type n) <% current += n; return *this; %>
   reference operator[](difference_type n) const <% return *(*this + n); %>
 %>;
 template <class I, class J>
 bool operator==(const reverse_iterator<I> &a, const reverse_iterator<J> &b) <%
   return a.base() == b.base(); %>
 template <class I, class J>
 bool operator!=(const reverse_iterator<I> &a, const reverse_iterator<J> &b) <%
   return !(a.base() == b.base()); %>
 template <class I, class J>
 bool operator<(const reverse_iterator<I> &a, const reverse_iterator<J> &b) <%
   return b.base() < a.base(); %>
 template <class I, class J>
 bool operator>(const reverse_iterator<I> &a, const reverse_iterator<J> &b) <% return b < a; %>
 template <class I, class J>
 bool operator<=(const reverse_iterator<I> &a, const reverse_iterator<J> &b) <% return !(b <
     a); %>
 template <class I, class J>
 bool operator>=(const reverse_iterator<I> &a, const reverse_iterator<J> &b) <% return !(a <
     b); %>
 template <class I, class J>
 auto operator-(const reverse_iterator<I> &a, const reverse_iterator<J> &b)
     -> decltype(b.base() - a.base()) <% return b.base() - a.base(); %>
 template <class I> reverse_iterator<I> make_reverse_iterator(I place) <%
   return reverse_iterator<I>(place); %>
 template <class I> class move_iterator <%
   I current;
 public:
   typedef I iterator_type;
   typedef typename iterator_traits<I>::iterator_category iterator_category;
   typedef typename iterator_traits<I>::value_type value_type;
   typedef typename iterator_traits<I>::difference_type difference_type;
   typedef I pointer; typedef value_type &&reference;
   move_iterator() : current() <%%>
   explicit move_iterator(I place) : current(place) <%%>
   I base() const <% return current; %>
   reference operator*() const <% return static_cast<reference>(*current); %>
   I operator->() const <% return current; %>
   move_iterator &operator++() <% ++current; return *this; %>
   move_iterator operator++(int) <% move_iterator old = *this; ++current; return old; %>
   move_iterator &operator--() <% --current; return *this; %>
   move_iterator operator+(difference_type n) const <% return move_iterator(current + n); %>
   move_iterator &operator+=(difference_type n) <% current += n; return *this; %>
 %>;
 template <class I> bool operator==(const move_iterator<I> &a, const move_iterator<I> &b) <%
   return a.base() == b.base(); %>
 template <class I> bool operator!=(const move_iterator<I> &a, const move_iterator<I> &b) <%
   return !(a.base() == b.base()); %>
 template <class I>
 ptrdiff_t operator-(const move_iterator<I> &a, const move_iterator<I> &b) <%
   return a.base() - b.base(); %>
 template <class I> move_iterator<I> make_move_iterator(I place) <% return
     move_iterator<I>(place); %>
 template <class C> class back_insert_iterator
     : public iterator<output_iterator_tag, void, void, void, void> <%
   C *container;
 public:
   explicit back_insert_iterator(C &c) : container(addressof(c)) <%%>
   back_insert_iterator &operator=(const typename C::value_type &value) <%
     container->push_back(value); return *this; %>
   back_insert_iterator &operator=(typename C::value_type &&value) <%
     container->push_back(move(value)); return *this; %>
   back_insert_iterator &operator*() <% return *this; %>
   back_insert_iterator &operator++() <% return *this; %>
   back_insert_iterator operator++(int) <% return *this; %>
 %>;
 template <class C> back_insert_iterator<C> back_inserter(C &c) <%
   return back_insert_iterator<C>(c); %>
 template <class C> class front_insert_iterator
     : public iterator<output_iterator_tag, void, void, void, void> <%
   C *container;
 public:
   explicit front_insert_iterator(C &c) : container(addressof(c)) <%%>
   front_insert_iterator &operator=(const typename C::value_type &value) <%
     container->push_front(value); return *this; %>
   front_insert_iterator &operator*() <% return *this; %>
   front_insert_iterator &operator++() <% return *this; %>
   front_insert_iterator operator++(int) <% return *this; %>
 %>;
 template <class C> front_insert_iterator<C> front_inserter(C &c) <%
   return front_insert_iterator<C>(c); %>
 template <class C> class insert_iterator
     : public iterator<output_iterator_tag, void, void, void, void> <%
   C *container; typename C::iterator place;
 public:
   insert_iterator(C &c, typename C::iterator i) : container(addressof(c)), place(i) <%%>
   insert_iterator &operator=(const typename C::value_type &value) <%
     place = container->insert(place, value); ++place; return *this; %>
   insert_iterator &operator*() <% return *this; %>
   insert_iterator &operator++() <% return *this; %>
   insert_iterator &operator++(int) <% return *this; %>
 %>;
 template <class C> insert_iterator<C> inserter(C &c, typename C::iterator i) <%
   return insert_iterator<C>(c, i); %>
 %>
 namespace __gnu_cxx <%
 template <class P, class C> class __normal_iterator <%
   P __place;
 public:
   typedef typename std::iterator_traits<P>::iterator_category iterator_category;
   typedef typename std::iterator_traits<P>::value_type value_type;
   typedef typename std::iterator_traits<P>::difference_type difference_type;
   typedef typename std::iterator_traits<P>::pointer pointer;
   typedef typename std::iterator_traits<P>::reference reference;
   __normal_iterator() noexcept : __place() <%%>
   explicit __normal_iterator(const P &place) noexcept : __place(place) <%%>
   template <class Q, class = typename std::enable_if<std::is_convertible<Q, P>::value>::type>
   __normal_iterator(const __normal_iterator<Q, C> &other) noexcept : __place(other.base()) <%%>
   const P &base() const noexcept <% return __place; %>
   reference operator*() const noexcept <% return *__place; %>
   pointer operator->() const noexcept <% return __place; %>
   reference operator[](difference_type n) const noexcept <% return __place[n]; %>
   __normal_iterator &operator++() noexcept <% ++__place; return *this; %>
   __normal_iterator operator++(int) noexcept <% return __normal_iterator(__place++); %>
   __normal_iterator &operator--() noexcept <% --__place; return *this; %>
   __normal_iterator operator--(int) noexcept <% return __normal_iterator(__place--); %>
   __normal_iterator &operator+=(difference_type n) noexcept <% __place += n; return *this; %>
   __normal_iterator &operator-=(difference_type n) noexcept <% __place -= n; return *this; %>
   __normal_iterator operator+(difference_type n) const noexcept <%
     return __normal_iterator(__place + n); %>
   __normal_iterator operator-(difference_type n) const noexcept <%
     return __normal_iterator(__place - n); %>
 %>;
 template <class P, class Q, class C> bool operator==(const __normal_iterator<P, C> &a,
     const __normal_iterator<Q, C> &b) noexcept <% return a.base() == b.base(); %>
 template <class P, class Q, class C> bool operator!=(const __normal_iterator<P, C> &a,
     const __normal_iterator<Q, C> &b) noexcept <% return a.base() != b.base(); %>
 template <class P, class Q, class C> bool operator<(const __normal_iterator<P, C> &a,
     const __normal_iterator<Q, C> &b) noexcept <% return a.base() < b.base(); %>
 template <class P, class Q, class C> bool operator>(const __normal_iterator<P, C> &a,
     const __normal_iterator<Q, C> &b) noexcept <% return a.base() > b.base(); %>
 template <class P, class Q, class C> bool operator<=(const __normal_iterator<P, C> &a,
     const __normal_iterator<Q, C> &b) noexcept <% return a.base() <= b.base(); %>
 template <class P, class Q, class C> bool operator>=(const __normal_iterator<P, C> &a,
     const __normal_iterator<Q, C> &b) noexcept <% return a.base() >= b.base(); %>
 template <class P, class Q, class C> ptrdiff_t operator-(const __normal_iterator<P, C> &a,
     const __normal_iterator<Q, C> &b) noexcept <% return a.base() - b.base(); %>
 template <class P, class C> __normal_iterator<P, C> operator+(ptrdiff_t n,
     const __normal_iterator<P, C> &a) noexcept <% return a + n; %>
 %>
 namespace std <%
 template <class C> auto begin(C &c) -> decltype(c.begin()) <% return c.begin(); %>
 template <class C> auto begin(const C &c) -> decltype(c.begin()) <% return c.begin(); %>
 template <class C> auto end(C &c) -> decltype(c.end()) <% return c.end(); %>
 template <class C> auto end(const C &c) -> decltype(c.end()) <% return c.end(); %>
 template <class T, size_t n> constexpr T *begin(T (&array)[n]) noexcept <% return array; %>
 template <class T, size_t n> constexpr T *end(T (&array)[n]) noexcept <% return array + n; %>
 template <class C> auto cbegin(const C &c) -> decltype(c.begin()) <% return c.begin(); %>
 template <class C> auto cend(const C &c) -> decltype(c.end()) <% return c.end(); %>
 template <class C> auto rbegin(C &c) -> decltype(c.rbegin()) <% return c.rbegin(); %>
 template <class C> auto rend(C &c) -> decltype(c.rend()) <% return c.rend(); %>
 template <class T, size_t n> reverse_iterator<T *> rbegin(T (&array)[n]) <%
   return reverse_iterator<T *>(array + n); %>
 template <class T, size_t n> reverse_iterator<T *> rend(T (&array)[n]) <%
   return reverse_iterator<T *>(array); %>
 #if __cplusplus >= 201703L
 template <class C> constexpr auto size(const C &c) -> decltype(c.size()) <% return c.size(); %>
 template <class T, size_t n> constexpr size_t size(const T (&)[n]) noexcept <% return n; %>
 template <class C> constexpr auto empty(const C &c) -> decltype(c.empty()) <% return
     c.empty(); %>
 template <class C> constexpr auto data(C &c) -> decltype(c.data()) <% return c.data(); %>
 template <class T, size_t n> constexpr T *data(T (&array)[n]) noexcept <% return array; %>
 #endif
 %>
"

/-- Objects in memory that was asked for. -/
def rawMemory : Octets := "
 #include <iterator>
 #include <new>
 namespace std <%
 template <class T> class allocator <%
 public:
   typedef T value_type; typedef T *pointer; typedef const T *const_pointer;
   typedef T &reference; typedef const T &const_reference;
   typedef size_t size_type; typedef ptrdiff_t difference_type;
   template <class U> struct rebind <% typedef allocator<U> other; %>;
   allocator() noexcept <%%>
   allocator(const allocator &) noexcept <%%>
   template <class U> allocator(const allocator<U> &) noexcept <%%>
   T *allocate(size_t count, const void * = 0) <%
     return static_cast<T *>(::operator new(count * sizeof(T))); %>
   void deallocate(T *place, size_t) <% ::operator delete(place); %>
   template <class U, class... A> void construct(U *place, A &&...given) <%
     ::new ((void *)place) U(forward<A>(given)...); %>
   template <class U> void destroy(U *place) <% place->~U(); %>
   size_t max_size() const noexcept <% return size_t(0x7fffffffffffffff) / sizeof(T); %>
 %>;
 template <class T, class U>
 bool operator==(const allocator<T> &, const allocator<U> &) <% return true; %>
 template <class T, class U>
 bool operator!=(const allocator<T> &, const allocator<U> &) <% return false; %>
 template <class A, class U> struct __rebound;
 template <template <class, class...> class A, class T, class... R, class U>
 struct __rebound<A<T, R...>, U> <% typedef A<U, R...> type; %>;
 template <class A> struct allocator_traits <%
   typedef A allocator_type; typedef typename A::value_type value_type;
   typedef value_type *pointer; typedef const value_type *const_pointer;
   typedef size_t size_type; typedef ptrdiff_t difference_type;
   template <class U> using rebind_alloc = typename __rebound<A, U>::type;
   static pointer allocate(A &a, size_t n) <% return a.allocate(n); %>
   static void deallocate(A &a, pointer p, size_t n) <% a.deallocate(p, n); %>
   template <class U, class... B> static void construct(A &, U *place, B &&...given) <%
     ::new ((void *)place) U(forward<B>(given)...); %>
   template <class U> static void destroy(A &, U *place) <% place->~U(); %>
   static A select_on_container_copy_construction(const A &a) <% return a; %>
 %>;
 template <class T> void _Destroy(T *place) <% place->~T(); %>
 template <bool> struct __destroyer <%
   template <class T> static void run(T *first, T *last) <%
     for (; first != last; ++first) first->~T(); %> %>;
 template <> struct __destroyer<true> <%
   template <class T> static void run(T *, T *) <%%> %>;
 template <class T> inline void __destroy(T *first, T *last) <%
   __destroyer<is_trivially_destructible<T>::value>::run(first, last); %>
 template <class I, class T> T *__make_copies(I first, I last, T *place) <%
   T *made = place;
   try <% for (; first != last; ++first, ++made) ::new ((void *)made) T(*first); %>
   catch (...) <% __destroy(place, made); throw; %>
   return made; %>
 template <class T> T *__make_moved(T *first, T *last, T *place) <%
   T *made = place;
   try <% for (; first != last; ++first, ++made) ::new ((void *)made)
       T(move_if_noexcept(*first)); %>
   catch (...) <% __destroy(place, made); throw; %>
   return made; %>
 template <class T> T *__make_filled(T *place, size_t count, const T &value) <%
   T *made = place;
   try <% for (; count; --count, ++made) ::new ((void *)made) T(value); %>
   catch (...) <% __destroy(place, made); throw; %>
   return made; %>
 template <class T> T *__make_plain(T *place, size_t count) <%
   T *made = place;
   try <% for (; count; --count, ++made) ::new ((void *)made) T(); %>
   catch (...) <% __destroy(place, made); throw; %>
   return made; %>
 %>
"

/-- The algorithms that sequences are made with. -/
def plainAlgorithms : Octets := "
 #include <iterator>
 namespace std <%
 template <class T> constexpr const T &min(const T &a, const T &b) <% return b < a ? b : a; %>
 template <class T> constexpr const T &max(const T &a, const T &b) <% return a < b ? b : a; %>
 template <class T, class L> constexpr const T &min(const T &a, const T &b, L less) <%
   return less(b, a) ? b : a; %>
 template <class T, class L> constexpr const T &max(const T &a, const T &b, L less) <%
   return less(a, b) ? b : a; %>
 template <class I, class J> J copy(I first, I last, J target) <%
   for (; first != last; ++first, ++target) *target = *first;
   return target; %>
 template <class I, class J> J copy_backward(I first, I last, J target) <%
   while (first != last) *--target = *--last;
   return target; %>
 template <class I, class J> J move(I first, I last, J target) <%
   for (; first != last; ++first, ++target) *target = std::move(*first);
   return target; %>
 template <class I, class J> J move_backward(I first, I last, J target) <%
   while (first != last) *--target = std::move(*--last);
   return target; %>
 template <class I, class T> void fill(I first, I last, const T &value) <%
   for (; first != last; ++first) *first = value; %>
 template <class I, class N, class T> I fill_n(I first, N count, const T &value) <%
   for (; count > 0; --count, ++first) *first = value;
   return first; %>
 template <class I, class J> bool equal(I first, I last, J other) <%
   for (; first != last; ++first, ++other) if (!(*first == *other)) return false;
   return true; %>
 template <class I, class J, class P> bool equal(I first, I last, J other, P same) <%
   for (; first != last; ++first, ++other) if (!same(*first, *other)) return false;
   return true; %>
 template <class I, class J>
 bool lexicographical_compare(I first, I last, J other, J end) <%
   for (; first != last && other != end; ++first, ++other) <%
     if (*first < *other) return true;
     if (*other < *first) return false; %>
   return first == last && other != end; %>
 template <class I, class J, class L>
 bool lexicographical_compare(I first, I last, J other, J end, L less) <%
   for (; first != last && other != end; ++first, ++other) <%
     if (less(*first, *other)) return true;
     if (less(*other, *first)) return false; %>
   return first == last && other != end; %>
 template <class I, class J> void iter_swap(I a, J b) <% using std::swap; swap(*a, *b); %>
 template <class I, class J> J swap_ranges(I first, I last, J other) <%
   for (; first != last; ++first, ++other) iter_swap(first, other);
   return other; %>
 %>
"

/-- Arrays of a fixed length. -/
def arrays : Octets := "
 #include <iterator>
 #include <__throwing>
 #include <__algorithms>
 namespace std <%
 template <class T, size_t n> struct array <%
   typedef T value_type; typedef T *pointer; typedef const T *const_pointer;
   typedef T &reference; typedef const T &const_reference;
   typedef T *iterator; typedef const T *const_iterator;
   typedef size_t size_type; typedef ptrdiff_t difference_type;
   typedef std::reverse_iterator<iterator> reverse_iterator;
   typedef std::reverse_iterator<const_iterator> const_reverse_iterator;
   T __items[n ? n : 1];
   void fill(const T &value) <% for (size_t i = 0; i < n; ++i) __items[i] = value; %>
   void swap(array &other) <% for (size_t i = 0; i < n; ++i) std::swap(__items[i],
       other.__items[i]); %>
   T *begin() noexcept <% return __items; %>
   constexpr const T *begin() const noexcept <% return __items; %>
   T *end() noexcept <% return __items + n; %>
   constexpr const T *end() const noexcept <% return __items + n; %>
   constexpr const T *cbegin() const noexcept <% return __items; %>
   constexpr const T *cend() const noexcept <% return __items + n; %>
   reverse_iterator rbegin() <% return reverse_iterator(end()); %>
   const_reverse_iterator rbegin() const <% return const_reverse_iterator(end()); %>
   reverse_iterator rend() <% return reverse_iterator(begin()); %>
   const_reverse_iterator rend() const <% return const_reverse_iterator(begin()); %>
   constexpr size_t size() const noexcept <% return n; %>
   constexpr size_t max_size() const noexcept <% return n; %>
   constexpr bool empty() const noexcept <% return n == 0; %>
   T &operator[](size_t i) noexcept <% return __items[i]; %>
   constexpr const T &operator[](size_t i) const noexcept <% return __items[i]; %>
   T &at(size_t i) <% if (i >= n) __throw_array_place(i, n); return __items[i]; %>
   const T &at(size_t i) const <% if (i >= n) __throw_array_place(i, n); return __items[i]; %>
   T &front() noexcept <% return __items[0]; %>
   constexpr const T &front() const noexcept <% return __items[0]; %>
   T &back() noexcept <% return __items[n - 1]; %>
   constexpr const T &back() const noexcept <% return __items[n - 1]; %>
   T *data() noexcept <% return __items; %>
   constexpr const T *data() const noexcept <% return __items; %>
 %>;
 #if __cplusplus >= 201703L
 template <class T, class... U> array(T, U...) -> array<T, 1 + sizeof...(U)>;
 #endif
 template <class T, size_t n> bool operator==(const array<T, n> &a, const array<T, n> &b) <%
   return equal(a.begin(), a.end(), b.begin()); %>
 template <class T, size_t n> bool operator!=(const array<T, n> &a, const array<T, n> &b) <%
   return !(a == b); %>
 template <class T, size_t n> bool operator<(const array<T, n> &a, const array<T, n> &b) <%
   return lexicographical_compare(a.begin(), a.end(), b.begin(), b.end()); %>
 template <class T, size_t n> bool operator>(const array<T, n> &a, const array<T, n> &b) <%
   return b < a; %>
 template <class T, size_t n> bool operator<=(const array<T, n> &a, const array<T, n> &b) <%
   return !(b < a); %>
 template <class T, size_t n> bool operator>=(const array<T, n> &a, const array<T, n> &b) <%
   return !(a < b); %>
 template <class T, size_t n> void swap(array<T, n> &a, array<T, n> &b) <% a.swap(b); %>
 template <class T, size_t n> struct tuple_size<array<T, n>> : integral_constant<size_t, n> <%%>;
 template <size_t i, class T, size_t n> struct tuple_element<i, array<T, n>> <% typedef T
     type; %>;
 template <size_t i, class T, size_t n> constexpr T &get(array<T, n> &a) noexcept <%
   return a.__items[i]; %>
 template <size_t i, class T, size_t n> constexpr const T &get(const array<T, n> &a) noexcept <%
   return a.__items[i]; %>
 %>
"

/-- Arrays that grow. -/
def vectors : Octets := "
 #include <__memory>
 #include <__algorithms>
 #include <__throwing>
 #include <__hash>
 namespace std <%
 template <class T, class A = allocator<T>> class vector <%
   struct __parts : A <%
     T *first, *last, *end;
     __parts() : A(), first(), last(), end() <%%>
     __parts(const A &a) : A(a), first(), last(), end() <%%>
   %> __p;
   typedef allocator_traits<A> __traits;
   T *__take(size_t n) <% return n ? __traits::allocate(__p, n) : nullptr; %>
   void __give(T *place, size_t n) <% if (place) __traits::deallocate(__p, place, n); %>
   void __clean() <%
     __destroy(__p.first, __p.last); __give(__p.first, __p.end - __p.first); %>
   void __set(T *first, T *last, T *end) <% __p.first = first; __p.last = last; __p.end = end; %>
   size_t __grown(size_t more, const char *where) const <%
     if (max_size() - size() < more) __throw_length_error(where);
     size_t n = size() + (size() > more ? size() : more);
     return n < size() || n > max_size() ? max_size() : n; %>
   template <class... B> void __insert_one(T *position, B &&...given) <%
     size_t room = __grown(1, \"vector::_M_realloc_insert\"), before = position - __p.first;
     T *place = __take(room), *made = place;
     try <%
       ::new ((void *)(place + before)) T(std::forward<B>(given)...);
       try <%
         made = __make_moved(__p.first, position, place); ++made;
         made = __make_moved(position, __p.last, made);
       %> catch (...) <% (place + before)->~T(); throw; %>
     %> catch (...) <% __give(place, room); throw; %>
     __clean(); __set(place, made, place + room); %>
   template <class I> void __start_from(I first, I last, input_iterator_tag) <%
     for (; first != last; ++first) push_back(*first); %>
   template <class I> void __start_from(I first, I last, forward_iterator_tag) <%
     size_t n = std::distance(first, last);
     if (n > max_size())
         __throw_length_error(\"cannot create std::vector larger than max_size()\");
     T *place = __take(n); __set(place, place, place + n);
     try <% __p.last = __make_copies(first, last, place); %>
     catch (...) <% __give(place, n); throw; %> %>
   size_t __checked(size_t n) const <%
     if (n > max_size())
         __throw_length_error(\"cannot create std::vector larger than max_size()\");
     return n; %>
 public:
   typedef T value_type; typedef A allocator_type; typedef T &reference;
   typedef const T &const_reference; typedef size_t size_type; typedef ptrdiff_t difference_type;
   typedef T *pointer; typedef const T *const_pointer;
   typedef __gnu_cxx::__normal_iterator<T *, vector> iterator;
   typedef __gnu_cxx::__normal_iterator<const T *, vector> const_iterator;
   typedef std::reverse_iterator<iterator> reverse_iterator;
   typedef std::reverse_iterator<const_iterator> const_reverse_iterator;
   vector() <%%>
   explicit vector(const A &a) : __p(a) <%%>
   explicit vector(size_t n, const A &a = A()) : __p(a) <%
     T *place = __take(__checked(n)); __set(place, place, place + n);
     try <% __p.last = __make_plain(place, n); %> catch (...) <% __give(place, n); throw; %> %>
   vector(size_t n, const T &value, const A &a = A()) : __p(a) <%
     T *place = __take(__checked(n)); __set(place, place, place + n);
     try <% __p.last = __make_filled(place, n, value); %> catch (...) <% __give(place, n);
         throw; %> %>
   vector(const vector &other)
       : __p(__traits::select_on_container_copy_construction(other.__p)) <%
     __start_from(other.begin(), other.end(), forward_iterator_tag()); %>
   vector(vector &&other) noexcept : __p(static_cast<const A &>(other.__p)) <%
     __set(other.__p.first, other.__p.last, other.__p.end);
     other.__set(nullptr, nullptr, nullptr); %>
   vector(initializer_list<T> list, const A &a = A()) : __p(a) <%
     __start_from(list.begin(), list.end(), forward_iterator_tag()); %>
   template <class I, class = typename enable_if<__is_iterator<I>::value>::type>
   vector(I first, I last, const A &a = A()) : __p(a) <%
     __start_from(first, last, typename iterator_traits<I>::iterator_category()); %>
   ~vector() <% __clean(); %>
   vector &operator=(const vector &other) <%
     if (this != &other) __assign(other.__p.first, other.__p.last, other.size());
     return *this; %>
   vector &operator=(vector &&other) noexcept <%
     T *first = __p.first, *last = __p.last, *end = __p.end;
     __set(other.__p.first, other.__p.last, other.__p.end);
     other.__set(nullptr, nullptr, nullptr);
     __destroy(first, last); __give(first, end - first); return *this; %>
   vector &operator=(initializer_list<T> list) <%
     __assign(list.begin(), list.end(), list.size()); return *this; %>
   template <class I> void __assign(I first, I last, size_t n) <%
     if (n > capacity()) <%
       T *place = __take(__checked(n)), *made;
       try <% made = __make_copies(first, last, place); %> catch (...) <% __give(place, n);
           throw; %>
       __clean(); __set(place, made, place + n);
     %> else if (size() >= n) <%
       T *end = std::copy(first, last, __p.first);
       __destroy(end, __p.last); __p.last = end;
     %> else <%
       T *place = __p.first;
       for (; place != __p.last; ++place, ++first) *place = *first;
       __p.last = __make_copies(first, last, place);
     %> %>
   void assign(size_t n, const T &value) <% vector made(n, value);
     if (n > capacity()) swap(made);
     else __assign(made.__p.first, made.__p.last, n); %>
   void assign(initializer_list<T> list) <% __assign(list.begin(), list.end(), list.size()); %>
   template <class I, class = typename enable_if<__is_iterator<I>::value>::type>
   void assign(I first, I last) <% __assign(first, last, std::distance(first, last)); %>
   A get_allocator() const <% return __p; %>
   iterator begin() noexcept <% return iterator(__p.first); %>
   const_iterator begin() const noexcept <% return const_iterator(__p.first); %>
   iterator end() noexcept <% return iterator(__p.last); %>
   const_iterator end() const noexcept <% return const_iterator(__p.last); %>
   reverse_iterator rbegin() <% return reverse_iterator(end()); %>
   const_reverse_iterator rbegin() const <% return const_reverse_iterator(end()); %>
   reverse_iterator rend() <% return reverse_iterator(begin()); %>
   const_reverse_iterator rend() const <% return const_reverse_iterator(begin()); %>
   const_iterator cbegin() const noexcept <% return const_iterator(__p.first); %>
   const_iterator cend() const noexcept <% return const_iterator(__p.last); %>
   const_reverse_iterator crbegin() const <% return const_reverse_iterator(end()); %>
   const_reverse_iterator crend() const <% return const_reverse_iterator(begin()); %>
   size_t size() const noexcept <% return __p.last - __p.first; %>
   size_t max_size() const noexcept <% return size_t(0x7fffffffffffffff) / sizeof(T); %>
   size_t capacity() const noexcept <% return __p.end - __p.first; %>
   bool empty() const noexcept <% return __p.first == __p.last; %>
   void reserve(size_t n) <%
     if (n > max_size()) __throw_length_error(\"vector::reserve\");
     if (n > capacity()) <%
       T *place = __take(n), *made;
       try <% made = __make_moved(__p.first, __p.last, place); %>
       catch (...) <% __give(place, n); throw; %>
       __clean(); __set(place, made, place + n); %> %>
   void shrink_to_fit() <% if (capacity() != size()) <%
     size_t n = size(); T *place = __take(n), *made = place;
     made = __make_moved(__p.first, __p.last, place);
     __clean(); __set(place, made, place + n); %> %>
   void resize(size_t n) <%
     if (n > size()) <%
       size_t more = n - size();
       if (size_t(__p.end - __p.last) >= more) __p.last = __make_plain(__p.last, more);
       else <%
         size_t room = __grown(more, \"vector::_M_default_append\");
         T *place = __take(room), *made = place + size();
         try <% made = __make_plain(made, more); __make_moved(__p.first, __p.last, place); %>
         catch (...) <% __give(place, room); throw; %>
         __clean(); __set(place, made, place + room); %>
     %> else <% __destroy(__p.first + n, __p.last); __p.last = __p.first + n; %> %>
   void resize(size_t n, const T &value) <%
     if (n > size()) insert(end(), n - size(), value);
     else <% __destroy(__p.first + n, __p.last); __p.last = __p.first + n; %> %>
   T &operator[](size_t i) <% return __p.first[i]; %>
   const T &operator[](size_t i) const <% return __p.first[i]; %>
   T &at(size_t i) <%
     if (i >= size()) __throw_range(\"vector::_M_range_check\", i, size());
     return __p.first[i]; %>
   const T &at(size_t i) const <%
     if (i >= size()) __throw_range(\"vector::_M_range_check\", i, size());
     return __p.first[i]; %>
   T &front() <% return *__p.first; %>
   const T &front() const <% return *__p.first; %>
   T &back() <% return *(__p.last - 1); %>
   const T &back() const <% return *(__p.last - 1); %>
   T *data() noexcept <% return __p.first; %>
   const T *data() const noexcept <% return __p.first; %>
   void push_back(const T &value) <%
     if (__p.last != __p.end) <% ::new ((void *)__p.last) T(value); ++__p.last; %>
     else __insert_one(__p.last, value); %>
   void push_back(T &&value) <% emplace_back(std::move(value)); %>
 #if __cplusplus >= 201703L
   template <class... B> T &emplace_back(B &&...given) <%
 #else
   template <class... B> void emplace_back(B &&...given) <%
 #endif
     if (__p.last != __p.end) <%
       ::new ((void *)__p.last) T(std::forward<B>(given)...); ++__p.last; %>
     else __insert_one(__p.last, std::forward<B>(given)...);
 #if __cplusplus >= 201703L
     return back();
 #endif
   %>
   void pop_back() <% --__p.last; __p.last->~T(); %>
   void clear() noexcept <% __destroy(__p.first, __p.last); __p.last = __p.first; %>
   template <class... B> iterator emplace(const_iterator position, B &&...given) <%
     size_t before = position.base() - __p.first; T *place = __p.first + before;
     if (__p.last == __p.end) __insert_one(place, std::forward<B>(given)...);
     else if (place == __p.last) <%
       ::new ((void *)__p.last) T(std::forward<B>(given)...); ++__p.last; %>
     else <%
       T made(std::forward<B>(given)...);
       ::new ((void *)__p.last) T(std::move(*(__p.last - 1))); ++__p.last;
       std::move_backward(place, __p.last - 2, __p.last - 1);
       *place = std::move(made); %>
     return iterator(__p.first + before); %>
   iterator insert(const_iterator position, const T &value) <% return emplace(position, value); %>
   iterator insert(const_iterator position, T &&value) <%
     size_t before = position.base() - __p.first; T *place = __p.first + before;
     if (__p.last == __p.end) __insert_one(place, std::move(value));
     else if (place == __p.last) <% ::new ((void *)__p.last) T(std::move(value)); ++__p.last; %>
     else <%
       ::new ((void *)__p.last) T(std::move(*(__p.last - 1))); ++__p.last;
       std::move_backward(place, __p.last - 2, __p.last - 1);
       *place = std::move(value); %>
     return iterator(__p.first + before); %>
   iterator insert(const_iterator position, size_t n, const T &value) <%
     vector made(n, value);
     return __insert_all(position, made.__p.first, made.__p.last, n); %>
   template <class I, class = typename enable_if<__is_iterator<I>::value>::type>
   iterator insert(const_iterator position, I first, I last) <%
     return __insert_all(position, first, last, std::distance(first, last)); %>
   iterator insert(const_iterator position, initializer_list<T> list) <%
     return __insert_all(position, list.begin(), list.end(), list.size()); %>
   template <class I>
   iterator __insert_all(const_iterator position, I first, I last, size_t n) <%
     size_t before = position.base() - __p.first; T *place = __p.first + before;
     if (n == 0) return iterator(place);
     if (size_t(__p.end - __p.last) >= n) <%
       size_t after = __p.last - place; T *old = __p.last;
       if (after > n) <%
         __p.last = __make_moved(old - n, old, old);
         std::move_backward(place, old - n, old);
         std::copy(first, last, place);
       %> else <%
         I middle = std::next(first, after);
         T *made = __make_copies(middle, last, old);
         __p.last = __make_moved(place, old, made);
         std::copy(first, middle, place);
       %>
     %> else <%
       size_t room = __grown(n, \"vector::_M_range_insert\");
       T *fresh = __take(room), *made = fresh;
       try <%
         made = __make_moved(__p.first, place, fresh);
         made = __make_copies(first, last, made);
         made = __make_moved(place, __p.last, made);
       %> catch (...) <% __destroy(fresh, made); __give(fresh, room); throw; %>
       __clean(); __set(fresh, made, fresh + room);
     %>
     return iterator(__p.first + before); %>
   iterator erase(const_iterator position) <%
     T *place = __p.first + (position.base() - __p.first);
     if (place + 1 != __p.last) std::move(place + 1, __p.last, place);
     --__p.last; __p.last->~T(); return iterator(place); %>
   iterator erase(const_iterator first, const_iterator last) <%
     T *place = __p.first + (first.base() - __p.first);
     T *rest = __p.first + (last.base() - __p.first);
     if (place != rest) <%
       T *end = rest != __p.last ? std::move(rest, __p.last, place) : place;
       __destroy(end, __p.last); __p.last = end; %>
     return iterator(place); %>
   void swap(vector &other) noexcept <%
     std::swap(__p.first, other.__p.first); std::swap(__p.last, other.__p.last);
     std::swap(__p.end, other.__p.end); %>
 %>;
 #if __cplusplus >= 201703L
 template <class I, class = typename enable_if<__is_iterator<I>::value>::type>
 vector(I, I) -> vector<typename iterator_traits<I>::value_type>;
 #endif
 template <class T, class A> bool operator==(const vector<T, A> &a, const vector<T, A> &b) <%
   return a.size() == b.size() && equal(a.data(), a.data() + a.size(), b.data()); %>
 template <class T, class A> bool operator<(const vector<T, A> &a, const vector<T, A> &b) <%
   return lexicographical_compare(a.begin(), a.end(), b.begin(), b.end()); %>
 template <class T, class A> bool operator!=(const vector<T, A> &a, const vector<T, A> &b) <%
   return !(a == b); %>
 template <class T, class A> bool operator>(const vector<T, A> &a, const vector<T, A> &b) <%
   return b < a; %>
 template <class T, class A> bool operator<=(const vector<T, A> &a, const vector<T, A> &b) <%
   return !(b < a); %>
 template <class T, class A> bool operator>=(const vector<T, A> &a, const vector<T, A> &b) <%
   return !(a < b); %>
 template <class T, class A> void swap(vector<T, A> &a, vector<T, A> &b) noexcept <% a.swap(b); %>
 %>
"

/-- The headers of sequences. -/
def sequenceHeaders : List (Octets × Octets) :=
  [("iterator", iterators), ("__memory", rawMemory), ("__algorithms", plainAlgorithms),
    ("array", arrays), ("vector", vectors)]

end QueryFoundry.Native.Headers
