import QueryFoundry.Text.Octets

/-!
# Headers of composed values

The headers of C++ that declare values that consist of others.
-/

namespace QueryFoundry.Native.Headers

open Text (Octets)

/-- Values of several types together. -/
def tuples : Octets := "
 #include <utility>
 namespace std <%
 template <size_t i, class T> struct __tuple_leaf <%
   T value;
   constexpr __tuple_leaf() : value() <%%>
   template <class U> explicit constexpr __tuple_leaf(int, U &&given)
       : value(forward<U>(given)) <%%>
 %>;
 template <class S, class... T> struct __tuple_parts;
 template <size_t... i, class... T>
 struct __tuple_parts<integer_sequence<size_t, i...>, T...> : __tuple_leaf<i, T>... <%
   constexpr __tuple_parts() : __tuple_leaf<i, T>()... <%%>
   template <class... U> explicit constexpr __tuple_parts(int, U &&...given)
       : __tuple_leaf<i, T>(0, forward<U>(given))... <%%>
 %>;
 template <size_t i, class T> constexpr T &__leaf_value(__tuple_leaf<i, T> &leaf) noexcept <%
   return leaf.value; %>
 template <size_t i, class T>
 constexpr const T &__leaf_value(const __tuple_leaf<i, T> &leaf) noexcept <% return leaf.value; %>
 template <class... B> struct __all_hold : true_type <%%>;
 template <class B, class... C> struct __all_hold<B, C...>
     : conditional<B::value, __all_hold<C...>, false_type>::type <%%>;
 template <bool, class T, class... U> struct __tuple_takes_same : false_type <%%>;
 template <class... T, class... U> struct __tuple_takes_same<true, tuple<T...>, U...>
     : __all_hold<is_convertible<U, T>...> <%%>;
 template <class T, class... U> struct __is_only : false_type <%%>;
 template <class T, class U> struct __is_only<T, U>
     : is_same<T, typename remove_cv<typename remove_reference<U>::type>::type> <%%>;
 template <class... T> class tuple <%
   typedef __tuple_parts<make_index_sequence<sizeof...(T)>, T...> __parts_type;
   template <class O, size_t... i> void __assign_from(O &&other, index_sequence<i...>);
 public:
   __parts_type __parts;
   constexpr tuple() : __parts() <%%>
   template <class... U, class = typename enable_if<
       sizeof...(U) == sizeof...(T) && sizeof...(T) >= 1 &&
       !__is_only<tuple, U...>::value &&
       __tuple_takes_same<sizeof...(U) == sizeof...(T), tuple, U &&...>::value>::type>
   constexpr tuple(U &&...given) : __parts(0, forward<U>(given)...) <%%>
   tuple(const tuple &) = default;
   tuple(tuple &&) = default;
   template <class... U, class = typename enable_if<
       sizeof...(U) == sizeof...(T) && !is_same<tuple, tuple<U...>>::value &&
       __tuple_takes_same<sizeof...(U) == sizeof...(T), tuple, const U &...>::value>::type>
   constexpr tuple(const tuple<U...> &other)
       : tuple(other, make_index_sequence<sizeof...(U)>(), 0) <%%>
   template <class... U, class = typename enable_if<
       sizeof...(U) == sizeof...(T) && !is_same<tuple, tuple<U...>>::value &&
       __tuple_takes_same<sizeof...(U) == sizeof...(T), tuple, U &&...>::value>::type>
   constexpr tuple(tuple<U...> &&other)
       : tuple(move(other), make_index_sequence<sizeof...(U)>(), 0) <%%>
   template <class O, size_t... i> constexpr tuple(O &&other, index_sequence<i...>, int)
       : __parts(0, get<i>(forward<O>(other))...) <%%>
   template <class A, class B, class = typename enable_if<
       sizeof...(T) == 2 && is_convertible<const A &, tuple_element_t<0, tuple>>::value>::type>
   tuple(const pair<A, B> &other) : __parts(0, other.first, other.second) <%%>
   template <class A, class B, class = typename enable_if<
       sizeof...(T) == 2 && is_convertible<A &&, tuple_element_t<0, tuple>>::value>::type>
   tuple(pair<A, B> &&other)
       : __parts(0, forward<A>(other.first), forward<B>(other.second)) <%%>
   tuple &operator=(const tuple &other) <%
     __assign_from(other, make_index_sequence<sizeof...(T)>()); return *this; %>
   tuple &operator=(tuple &&other) <%
     __assign_from(move(other), make_index_sequence<sizeof...(T)>()); return *this; %>
   template <class... U> tuple &operator=(const tuple<U...> &other) <%
     __assign_from(other, make_index_sequence<sizeof...(T)>()); return *this; %>
   template <class... U> tuple &operator=(tuple<U...> &&other) <%
     __assign_from(move(other), make_index_sequence<sizeof...(T)>()); return *this; %>
   template <class A, class B> tuple &operator=(const pair<A, B> &other);
   template <class A, class B> tuple &operator=(pair<A, B> &&other);
   void swap(tuple &other) <% tuple kept = move(*this); *this = move(other); other =
       move(kept); %>
 %>;
 template <> class tuple<> <%
 public:
   void swap(tuple &) <%%>
 %>;
 template <class... T> struct tuple_size<tuple<T...>>
     : integral_constant<size_t, sizeof...(T)> <%%>;
 template <class T, class... U> struct tuple_element<0, tuple<T, U...>> <% typedef T type; %>;
 template <size_t i, class T, class... U> struct tuple_element<i, tuple<T, U...>>
     : tuple_element<i - 1, tuple<U...>> <%%>;
 template <size_t i, class... T>
 constexpr typename tuple_element<i, tuple<T...>>::type &get(tuple<T...> &t) noexcept <%
   return __leaf_value<i>(t.__parts); %>
 template <size_t i, class... T>
 constexpr const typename tuple_element<i, tuple<T...>>::type &get(const tuple<T...> &t)
     noexcept <%
   return __leaf_value<i>(t.__parts); %>
 template <size_t i, class... T>
 constexpr typename tuple_element<i, tuple<T...>>::type &&get(tuple<T...> &&t) noexcept <%
   return static_cast<typename tuple_element<i, tuple<T...>>::type &&>(
       __leaf_value<i>(t.__parts)); %>
 template <class X, class... T> struct __place_of : integral_constant<size_t, 0> <%%>;
 template <class X, class T, class... U> struct __place_of<X, T, U...>
     : integral_constant<size_t, is_same<X, T>::value ? 0 : 1 + __place_of<X, U...>::value> <%%>;
 template <class X, class... T> constexpr X &get(tuple<T...> &t) noexcept <%
   return get<__place_of<X, T...>::value>(t); %>
 template <class X, class... T> constexpr const X &get(const tuple<T...> &t) noexcept <%
   return get<__place_of<X, T...>::value>(t); %>
 template <class... T> template <class O, size_t... i>
 void tuple<T...>::__assign_from(O &&other, index_sequence<i...>) <%
   int done[] = <% 0, (get<i>(*this) = get<i>(forward<O>(other)), 0)... %>; (void)done; %>
 template <class... T> template <class A, class B>
 tuple<T...> &tuple<T...>::operator=(const pair<A, B> &other) <%
   get<0>(*this) = other.first; get<1>(*this) = other.second; return *this; %>
 template <class... T> template <class A, class B>
 tuple<T...> &tuple<T...>::operator=(pair<A, B> &&other) <%
   get<0>(*this) = forward<A>(other.first); get<1>(*this) = forward<B>(other.second);
   return *this; %>
 template <class... T> constexpr tuple<typename __kept<T>::type...> make_tuple(T &&...given) <%
   return tuple<typename __kept<T>::type...>(forward<T>(given)...); %>
 template <class... T> constexpr tuple<T &...> tie(T &...given) noexcept <%
   return tuple<T &...>(given...); %>
 template <class... T> constexpr tuple<T &&...> forward_as_tuple(T &&...given) noexcept <%
   return tuple<T &&...>(forward<T>(given)...); %>
 struct __ignored <% template <class T> const __ignored &operator=(const T &) const <%
   return *this; %> %>;
 static const __ignored ignore = __ignored();
 template <size_t i, size_t n> struct __tuple_order <%
   template <class T, class U> static bool same(const T &a, const U &b) <%
     return bool(get<i>(a) == get<i>(b)) && __tuple_order<i + 1, n>::same(a, b); %>
   template <class T, class U> static bool less(const T &a, const U &b) <%
     return bool(get<i>(a) < get<i>(b)) ||
         (!bool(get<i>(b) < get<i>(a)) && __tuple_order<i + 1, n>::less(a, b)); %>
 %>;
 template <size_t n> struct __tuple_order<n, n> <%
   template <class T, class U> static bool same(const T &, const U &) <% return true; %>
   template <class T, class U> static bool less(const T &, const U &) <% return false; %>
 %>;
 template <class... T, class... U> bool operator==(const tuple<T...> &a, const tuple<U...> &b) <%
   return __tuple_order<0, sizeof...(T)>::same(a, b); %>
 template <class... T, class... U> bool operator<(const tuple<T...> &a, const tuple<U...> &b) <%
   return __tuple_order<0, sizeof...(T)>::less(a, b); %>
 template <class... T, class... U> bool operator!=(const tuple<T...> &a, const tuple<U...> &b) <%
   return !(a == b); %>
 template <class... T, class... U> bool operator>(const tuple<T...> &a, const tuple<U...> &b) <%
   return b < a; %>
 template <class... T, class... U> bool operator<=(const tuple<T...> &a, const tuple<U...> &b) <%
   return !(b < a); %>
 template <class... T, class... U> bool operator>=(const tuple<T...> &a, const tuple<U...> &b) <%
   return !(a < b); %>
 template <class... T> void swap(tuple<T...> &a, tuple<T...> &b) <% a.swap(b); %>
 template <class S, class T, class U> struct __joined;
 template <class... T, class... U, size_t... i, size_t... j>
 tuple<T..., U...> __join(tuple<T...> a, tuple<U...> b, index_sequence<i...>,
     index_sequence<j...>) <%
   return tuple<T..., U...>(forward<T>(get<i>(a))..., forward<U>(get<j>(b))...); %>
 inline tuple<> tuple_cat() <% return tuple<>(); %>
 template <class... T> tuple<T...> tuple_cat(tuple<T...> a) <% return a; %>
 template <class... T, class... U> tuple<T..., U...> tuple_cat(tuple<T...> a, tuple<U...> b) <%
   return __join(a, b, index_sequence_for<T...>(), index_sequence_for<U...>()); %>
 template <class... T, class... U, class V, class... W>
 auto tuple_cat(tuple<T...> a, tuple<U...> b, V c, W... d)
     -> decltype(tuple_cat(tuple_cat(a, b), c, d...)) <%
   return tuple_cat(tuple_cat(a, b), c, d...); %>
 #if __cplusplus >= 201703L
 template <class F, class T, size_t... i>
 constexpr decltype(auto) __apply(F &&f, T &&t, index_sequence<i...>) <%
   return forward<F>(f)(get<i>(forward<T>(t))...); %>
 template <class F, class T> constexpr decltype(auto) apply(F &&f, T &&t) <%
   return __apply(forward<F>(f), forward<T>(t),
       make_index_sequence<tuple_size<remove_reference_t<T>>::value>()); %>
 template <class X, class T, size_t... i>
 constexpr X __make_from(T &&t, index_sequence<i...>) <% return X(get<i>(forward<T>(t))...); %>
 template <class X, class T> constexpr X make_from_tuple(T &&t) <%
   return __make_from<X>(forward<T>(t),
       make_index_sequence<tuple_size<remove_reference_t<T>>::value>()); %>
 #endif
 %>
"

/-- The headers of composed values. -/
def tupleHeaders : List (Octets × Octets) :=
  [("tuple", tuples)]

end QueryFoundry.Native.Headers
